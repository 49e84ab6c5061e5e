import Tabletop.Text.Basic

/-!
# The shortest decimal of a binary fraction

A finite 64-bit fraction is written with the fewest decimal digits that read back to it. The
reals that round to `m * 2 ^ q` form an interval, whose ends count exactly when `m` is even.
`Fraction.shortest` looks for a multiple of a power of ten in that interval, on coarser grids
first; of two on one grid it takes the nearer, and the even one if they are equally near. All
comparisons are between natural numbers.
-/

namespace Tabletop

/-- The positive number `m * 2 ^ q`. The gap to the next smaller fraction is half the gap to
the next greater one when `narrow` is set. -/
structure Fraction where
  m : Nat
  q : Int
  narrow : Bool
  deriving DecidableEq, Repr

namespace Fraction

/-- The fraction with these bits, the sign bit apart. -/
def ofBits (bits : UInt64) : Fraction :=
  let exponent := ((bits >>> 52) &&& 0x7ff).toNat
  let significand := (bits &&& 0xfffffffffffff).toNat
  if exponent = 0 then ⟨significand, -1074, false⟩
  else ⟨Nat.pow 2 52 + significand, (exponent : Int) - 1075, significand == 0 && exponent > 1⟩

/-- The comparison of `a * 10 ^ i` with `b * 2 ^ j`. -/
def compareScaled (a : Nat) (i : Int) (b : Nat) (j : Int) : Ordering :=
  compare (a * Nat.pow 10 i.toNat * Nat.pow 2 (-j).toNat)
    (b * Nat.pow 2 j.toNat * Nat.pow 10 (-i).toNat)

/-- Whether `a * 10 ^ i` rounds to the fraction. -/
def readsBack (f : Fraction) (a : Nat) (i : Int) : Bool :=
  let low := compareScaled a i (if f.narrow then 4 * f.m - 1 else 4 * f.m - 2) (f.q - 2)
  let high := compareScaled a i (4 * f.m + 2) (f.q - 2)
  let closed := f.m % 2 == 0
  (low == .gt || closed && low == .eq) && (high == .lt || closed && high == .eq)

/-- The greatest `a` with `a * 10 ^ i` at most the fraction. -/
def floorAt (f : Fraction) (i : Int) : Nat :=
  f.m * Nat.pow 2 f.q.toNat * Nat.pow 10 (-i).toNat /
    (Nat.pow 2 (-f.q).toNat * Nat.pow 10 i.toNat)

/-- The number of decimal digits before the point, which is negative when zeros follow it. -/
def pointPlace (f : Fraction) : Int :=
  let above := (Nat.toDigits 10 (f.m * Nat.pow 2 f.q.toNat)).length
  let below := (Nat.toDigits 10 (Nat.pow 2 (-f.q).toNat)).length
  let guess : Int := (above : Int) - below
  if compareScaled 1 guess f.m f.q == .gt then guess else guess + 1

/-- The multiple of `10 ^ i` that reads back, if there is one. -/
def onGrid? (f : Fraction) (i : Int) : Option Nat :=
  let a := f.floorAt i
  match f.readsBack a i, f.readsBack (a + 1) i with
  | true, true =>
    match compareScaled (2 * a + 1) i (2 * f.m) f.q with
    | .gt => some a
    | .lt => some (a + 1)
    | .eq => some (if a % 2 = 0 then a else a + 1)
  | true, false => some a
  | false, true => some (a + 1)
  | false, false => none

/-- Digits and a power of ten that read back, on the coarsest grid that has such. Seventeen
digits always suffice; beyond them stands the exact value. -/
def shortest (f : Fraction) : Nat × Int :=
  let place := f.pointPlace
  let found := (List.range 17).findSome? fun n =>
    let i := place - (n + 1 : Nat)
    (f.onGrid? i).map (·, i)
  found.getD (f.m * Nat.pow 2 f.q.toNat * Nat.pow 5 (-f.q).toNat, min f.q 0)

/-- A decimal with its digits and the place of its point: positionally where the leading digit
stands between the fourth place behind the point and the sixteenth before it, with at least one
digit behind the point, and otherwise with an exponent of at least two digits. -/
def layOut (digits : Text) (place : Int) : Text :=
  let zeros (n : Nat) : Text := List.replicate n '0'
  if -3 ≤ place ∧ place ≤ 0 then '0' :: '.' :: (zeros (-place).toNat ++ digits)
  else if 0 < place ∧ place ≤ 16 then
    let count := place.toNat
    if digits.length ≤ count then digits ++ zeros (count - digits.length) ++ ['.', '0']
    else digits.take count ++ '.' :: digits.drop count
  else
    let exponent := place - 1
    let power := Nat.toDigits 10 exponent.natAbs
    digits.take 1 ++ (if digits.length ≤ 1 then [] else '.' :: digits.drop 1) ++
      ['e', if exponent < 0 then '-' else '+'] ++ zeros (2 - power.length) ++ power

/-- The shortest decimal of the fraction. -/
def write (f : Fraction) : Text :=
  let (a, i) := f.shortest
  let digits := Nat.toDigits 10 a
  let kept := (digits.reverse.dropWhile (· == '0')).reverse
  layOut kept (digits.length + i)

end Fraction

/-- The shortest decimal of a 64-bit fraction of either sign. Zero keeps its sign. -/
def writeFraction (bits : UInt64) : Text :=
  let sign : Text := if bits >>> 63 = 0 then [] else ['-']
  let magnitude := bits &&& 0x7fffffffffffffff
  if magnitude > 0x7ff0000000000000 then "nan".toList
  else if magnitude = 0x7ff0000000000000 then sign ++ "inf".toList
  else if magnitude = 0 then sign ++ "0.0".toList
  else sign ++ (Fraction.ofBits magnitude).write

end Tabletop
