import Tabletop.Text.Basic

/-!
# Decimal numerals

`Numeral.write` gives the canonical numeral of an integer: its decimal digits without leading
zeros, after a minus sign if it is negative. `Numeral.read?` reads a numeral with an optional
sign, any leading zeros, and at most `Numeral.digitLimit` digits. Only the ten ASCII digits
count.
-/

namespace Tabletop

namespace Numeral

/-- The greatest number of digits, leading zeros included, that a numeral may have. -/
def digitLimit : Nat := 4300

/-- The canonical numeral of an integer. -/
def write : Int → Text
  | .ofNat n => Nat.toDigits 10 n
  | .negSucc n => '-' :: Nat.toDigits 10 (n + 1)

/-- The canonical numeral, unless it needs more than `digitLimit` digits. -/
def write? (n : Int) : Option Text :=
  if n.natAbs < Nat.pow 10 digitLimit then some (write n) else none

/-- The number that a run of digits stands for. There must be a digit, and no more than
`digitLimit` of them. -/
def readDigits? (digits : Text) : Option Nat :=
  if digits ≠ [] ∧ digits.all Char.isDigit ∧ digits.length ≤ digitLimit then
    some (Nat.ofDigitChars 10 digits 0)
  else none

/-- The integer that a numeral stands for: an optional sign, then digits. -/
def read? : Text → Option Int
  | '+' :: digits => (readDigits? digits).map Int.ofNat
  | '-' :: digits => (readDigits? digits).map fun n => -(n : Int)
  | digits => (readDigits? digits).map Int.ofNat

end Numeral

end Tabletop
