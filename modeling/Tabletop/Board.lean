import Tabletop.Robot
import Tabletop.Text.Literal

/-!
# Boards

A board is a rectangle of cells with its south-west corner at the origin. Both its sides are
positive, so a board has at least one cell. `Board.ofLiterals?` makes a board of whatever was
given for its sides, and refuses anything but two positive whole numbers.
-/

namespace Tabletop

structure Board where
  width : Int
  height : Int
  width_pos : 0 < width := by decide
  height_pos : 0 < height := by decide
  deriving DecidableEq

namespace Board

/-- Whether the cell lies on the board. -/
def Holds (board : Board) (cell : Cell) : Prop :=
  (0 ≤ cell.x ∧ cell.x < board.width) ∧ (0 ≤ cell.y ∧ cell.y < board.height)

instance (board : Board) (cell : Cell) : Decidable (board.Holds cell) :=
  inferInstanceAs (Decidable (_ ∧ _))

/-- The sides that were refused for a board, as they were given. -/
structure BadSides where
  width : Literal
  height : Literal

namespace BadSides

def message (sides : BadSides) : Text :=
  "Board dimensions must be positive integers, got ".toList ++ sides.width.write ++
    'x' :: (sides.height.write ++ ['.'])

def hint : Text := "Use --width and --height values of 1 or more.".toList

end BadSides

/-- The board with these sides, if both are positive. -/
def ofSides? (width height : Int) : Option Board :=
  if h : 0 < width ∧ 0 < height then some ⟨width, height, h.1, h.2⟩ else none

/-- The board whose sides are the given values, if both are positive whole numbers. -/
def ofLiterals? (width height : Literal) : Except BadSides Board :=
  match width, height with
  | .whole w, .whole h => (ofSides? w h).elim (.error ⟨width, height⟩) .ok
  | _, _ => .error ⟨width, height⟩

theorem holds_iff (board : Board) (cell : Cell) :
    board.Holds cell ↔
      0 ≤ cell.x ∧ cell.x < board.width ∧ 0 ≤ cell.y ∧ cell.y < board.height := by
  simp [Holds, and_assoc]

theorem ofSides?_eq_some_iff {width height : Int} {board : Board} :
    ofSides? width height = some board ↔ board.width = width ∧ board.height = height := by
  unfold ofSides?
  split
  · rename_i h
    simp only [Option.some.injEq]
    constructor
    · rintro rfl; exact ⟨rfl, rfl⟩
    · rintro ⟨rfl, rfl⟩; rfl
  · rename_i h
    simp only [reduceCtorEq, false_iff]
    rintro ⟨rfl, rfl⟩
    exact h ⟨board.width_pos, board.height_pos⟩

theorem ofLiterals?_eq_ok_iff {width height : Literal} {board : Board} :
    ofLiterals? width height = .ok board ↔
      width = .whole board.width ∧ height = .whole board.height := by
  constructor
  · intro h
    unfold ofLiterals? at h
    split at h
    · rename_i w v
      cases hSides : ofSides? w v with
      | none => rw [hSides] at h; cases h
      | some made =>
        rw [hSides] at h
        cases h
        obtain ⟨rfl, rfl⟩ := ofSides?_eq_some_iff.mp hSides
        exact ⟨rfl, rfl⟩
    · cases h
  · rintro ⟨rfl, rfl⟩
    have hSides : ofSides? board.width board.height = some board :=
      ofSides?_eq_some_iff.mpr ⟨rfl, rfl⟩
    simp only [ofLiterals?, hSides]
    rfl

end Board

end Tabletop
