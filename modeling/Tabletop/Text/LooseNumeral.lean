import Tabletop.Text.Blank
import Tabletop.Text.DecimalDigit
import Tabletop.Text.Numeral

/-!
# Loosely written numerals

The numerals that stand in the value of an option may be written more freely than those of a
command: between spaces, with the decimal digits of any script, and with a single underscore
between two digits. The bound on the number of digits is the same.
-/

namespace Tabletop

namespace Numeral

/-- The characters that may surround a loose numeral: the blanks other than the four
information separators. -/
def isMargin (c : Char) : Bool := Text.isBlank c && !(0x1c ≤ c.toNat && c.toNat ≤ 0x1f)

/-- The values of a run of digits in which single underscores stand between digits. -/
def looseDigits? : Text → Option (List Nat)
  | [] => none
  | [c] => (Text.digitValue? c).map ([·])
  | c :: '_' :: rest => do return (← Text.digitValue? c) :: (← looseDigits? rest)
  | c :: rest => do return (← Text.digitValue? c) :: (← looseDigits? rest)

/-- The number that such a run of digits stands for. -/
def readLooseDigits? (t : Text) : Option Nat :=
  match looseDigits? t with
  | some digits =>
    if digits.length ≤ digitLimit then some (digits.foldl (fun n d => 10 * n + d) 0) else none
  | none => none

/-- The integer that a loose numeral stands for. -/
def readLoose? (t : Text) : Option Int :=
  match ((t.dropWhile isMargin).reverse.dropWhile isMargin).reverse with
  | '+' :: digits => (readLooseDigits? digits).map Int.ofNat
  | '-' :: digits => (readLooseDigits? digits).map fun n => -(n : Int)
  | digits => (readLooseDigits? digits).map Int.ofNat

end Numeral

end Tabletop
