/-!
# Sets of characters as ranges

A property of characters is tabulated as closed ranges of code points, in ascending order.
-/

namespace Tabletop

/-- Closed ranges of code points, ascending and apart. -/
abbrev Ranges := List (Nat × Nat)

namespace Ranges

/-- Whether the code point lies in one of the ranges. -/
def holds (ranges : Ranges) (codePoint : Nat) : Bool :=
  ranges.any fun range => range.1 ≤ codePoint && codePoint ≤ range.2

theorem holds_iff (ranges : Ranges) (codePoint : Nat) :
    ranges.holds codePoint = true ↔
      ∃ range ∈ ranges, range.1 ≤ codePoint ∧ codePoint ≤ range.2 := by
  simp [holds, List.any_eq_true]

end Ranges

end Tabletop
