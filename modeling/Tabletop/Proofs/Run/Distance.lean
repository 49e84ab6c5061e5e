import Mathlib.Data.List.Count
import Mathlib.Data.Option.Basic
import Mathlib.Logic.Function.Iterate
import Tabletop.Proofs.Run.Walk

/-!
# Distances on the board

Every step goes to a neighbouring cell, so that it takes at least as many steps to another cell as
there are columns and rows between them (`distance_driven_le`). On the board no more are needed: a
robot turns towards the column, walks straight to it, turns towards the row, walks straight to it
and turns once more. All cells on this way are on the board, since those between two cells of a row
or of a column are (`leads_straight`). So the distance of two cells is exactly the least number of
steps between them, whatever the robot faces at either end (`distance_is_least_number_of_steps`).
-/

namespace Tabletop

/-- A few turns to the right lead from any heading to any other. -/
theorem Heading.exists_iterate_right (heading other : Heading) :
    ∃ k < 4, right^[k] heading = other := by
  cases heading <;> cases other <;> decide

namespace Cell

/-- How many columns and rows two cells are apart. -/
def distance (cell other : Cell) : Nat :=
  (other.x - cell.x).natAbs + (other.y - cell.y).natAbs

/-- The cell so many steps away in the direction of the heading. -/
def along (cell : Cell) (heading : Heading) (n : Nat) : Cell :=
  cell.shift (n * heading.dx) (n * heading.dy)

@[simp] theorem distance_self (cell : Cell) : cell.distance cell = 0 := by
  simp [distance]

theorem distance_triangle (first second third : Cell) :
    first.distance third ≤ first.distance second + second.distance third := by
  unfold distance
  omega

theorem distance_next (cell : Cell) (heading : Heading) :
    cell.distance (cell.next heading) = 1 := by
  obtain ⟨x, y⟩ := cell
  cases heading <;> simp only [distance, next, shift, Heading.dx, Heading.dy] <;> omega

theorem along_zero (cell : Cell) (heading : Heading) : cell.along heading 0 = cell := by
  simp [along, shift]

theorem along_succ (cell : Cell) (heading : Heading) (n : Nat) :
    cell.along heading (n + 1) = (cell.next heading).along heading n := by
  cases heading <;>
    simp only [along, next, shift, Heading.dx, Heading.dy, Cell.mk.injEq] <;> omega

/-- The way between two cells can be parted where it changes from the row to the column. -/
theorem distance_corner (cell other : Cell) :
    cell.distance ⟨other.x, cell.y⟩ + Cell.distance ⟨other.x, cell.y⟩ other =
      cell.distance other := by
  unfold distance
  dsimp only
  omega

/-- Two cells of one column or of one row lie straight ahead of each other. -/
theorem exists_along {cell other : Cell} (h : cell.x = other.x ∨ cell.y = other.y) :
    ∃ heading, cell.along heading (cell.distance other) = other := by
  obtain ⟨x, y⟩ := cell
  obtain ⟨x', y'⟩ := other
  rcases h with hColumn | hRow
  · dsimp only at hColumn
    rcases Int.le_total y y' with hNorth | hSouth
    · refine ⟨.north, ?_⟩
      simp only [along, shift, distance, Heading.dx, Heading.dy, mk.injEq]
      omega
    · refine ⟨.south, ?_⟩
      simp only [along, shift, distance, Heading.dx, Heading.dy, mk.injEq]
      omega
  · dsimp only at hRow
    rcases Int.le_total x x' with hEast | hWest
    · refine ⟨.east, ?_⟩
      simp only [along, shift, distance, Heading.dx, Heading.dy, mk.injEq]
      omega
    · refine ⟨.west, ?_⟩
      simp only [along, shift, distance, Heading.dx, Heading.dy, mk.injEq]
      omega

end Cell

namespace Board

variable {board : Board} {first last : Pose} {heading : Heading} {n : Nat}

/-! ## No fewer steps -/

theorem distance_step_le (board : Board) (pose : Pose) :
    pose.cell.distance (board.step pose).cell ≤ 1 := by
  by_cases hNext : board.Holds (pose.cell.next pose.heading)
  · rw [step_of_holds hNext, pose.cell.distance_next]
  · rw [step_of_not_holds hNext, pose.cell.distance_self]
    exact Nat.zero_le 1

theorem distance_drive_le (board : Board) (pose : Pose) (command : Option Command) :
    pose.cell.distance (board.drive pose command).cell ≤ [command].count (some .move) := by
  by_cases hMove : command = some .move
  · rw [hMove, List.count_singleton_self]
    exact board.distance_step_le pose
  · rw [board.cell_drive_of_ne pose hMove, pose.cell.distance_self]
    exact Nat.zero_le _

theorem distance_driven_le (board : Board) (pose : Pose) (commands : List (Option Command)) :
    pose.cell.distance (board.driven pose commands).cell ≤ commands.count (some .move) := by
  induction commands generalizing pose with
  | nil => simp
  | cons command commands ih =>
    have hFirst := board.distance_drive_le pose command
    have hRest := ih (board.drive pose command)
    have hWay := pose.cell.distance_triangle (board.drive pose command).cell
      (board.driven (board.drive pose command) commands).cell
    rw [driven_cons, ← List.singleton_append, List.count_append]
    omega

/-! ## A way with that many steps -/

theorem holds_next_of_holds_along {cell : Cell} (hOn : board.Holds cell)
    (hEnd : board.Holds (cell.along heading (n + 1))) : board.Holds (cell.next heading) := by
  rw [holds_iff] at hOn hEnd ⊢
  cases heading <;>
    simp only [Cell.along, Cell.next, Cell.shift, Heading.dx, Heading.dy] at hEnd ⊢ <;> omega

theorem leads_straight {cell : Cell} (hOn : board.Holds cell)
    (hEnd : board.Holds (cell.along heading n)) :
    board.Leads ⟨cell, heading⟩ (List.replicate n .ahead) ⟨cell.along heading n, heading⟩ := by
  induction n generalizing cell with
  | zero =>
    rw [Cell.along_zero]
    exact leads_nil_iff.mpr rfl
  | succ n ih =>
    have hNext : board.Holds (cell.next heading) := holds_next_of_holds_along hOn hEnd
    rw [Cell.along_succ] at hEnd ⊢
    exact leads_ahead_iff.mpr ⟨hNext, ih hNext hEnd⟩

theorem leads_turns (board : Board) (pose : Pose) (k : Nat) :
    board.Leads pose (List.replicate k .right) ⟨pose.cell, Heading.right^[k] pose.heading⟩ := by
  induction k generalizing pose with
  | zero => exact leads_nil_iff.mpr rfl
  | succ k ih => exact leads_right_iff.mpr (ih ⟨pose.cell, pose.heading.right⟩)

theorem exists_turns (board : Board) (pose : Pose) (heading : Heading) :
    ∃ walk : List Stride, board.Leads pose walk ⟨pose.cell, heading⟩ ∧ walk.count .ahead = 0 := by
  obtain ⟨k, -, rfl⟩ := pose.heading.exists_iterate_right heading
  refine ⟨_, board.leads_turns pose k, List.count_eq_zero_of_not_mem fun hAhead => ?_⟩
  cases List.eq_of_mem_replicate hAhead

theorem exists_leg (pose : Pose) {other : Cell}
    (hLine : pose.cell.x = other.x ∨ pose.cell.y = other.y) (hOn : board.Holds pose.cell)
    (hOther : board.Holds other) :
    ∃ walk : List Stride, ∃ heading, board.Leads pose walk ⟨other, heading⟩ ∧
      walk.count .ahead = pose.cell.distance other := by
  obtain ⟨heading, hAlong⟩ := Cell.exists_along hLine
  obtain ⟨turns, hTurns, hCount⟩ := exists_turns board pose heading
  have hStraight := leads_straight hOn (hAlong.symm ▸ hOther)
  rw [hAlong] at hStraight
  refine ⟨_, heading, hTurns.append hStraight, ?_⟩
  rw [List.count_append, hCount, List.count_replicate_self, Nat.zero_add]

/-- One leg along the row to the column of the other pose, one along that column to its cell, and
the turns to its heading. -/
theorem exists_route (hFirst : board.Holds first.cell) (hLast : board.Holds last.cell) :
    ∃ walk : List Stride, board.Leads first walk last ∧
      walk.count .ahead = first.cell.distance last.cell := by
  let corner : Cell := ⟨last.cell.x, first.cell.y⟩
  have hCorner : board.Holds corner := ⟨hLast.1, hFirst.2⟩
  have hSameRow : first.cell.y = corner.y := rfl
  have hSameColumn : corner.x = last.cell.x := rfl
  obtain ⟨row, toColumn, hRow, hRowCount⟩ := exists_leg first (Or.inr hSameRow) hFirst hCorner
  obtain ⟨column, toRow, hColumn, hColumnCount⟩ :=
    exists_leg ⟨corner, toColumn⟩ (Or.inl hSameColumn) hCorner hLast
  obtain ⟨turns, hTurns, hTurnsCount⟩ := exists_turns board ⟨last.cell, toRow⟩ last.heading
  refine ⟨_, (hRow.append hColumn).append hTurns, ?_⟩
  rw [List.count_append, List.count_append, hRowCount, hColumnCount, hTurnsCount, Nat.add_zero]
  exact first.cell.distance_corner last.cell

/-- Between any two poses on the board there is a walk with exactly as many steps as there are
columns and rows between their cells, none of which is blocked. No series of commands that leads
from the one to the other without placing the robot, blocked or not, has fewer steps than that. -/
theorem distance_is_least_number_of_steps (hFirst : board.Holds first.cell)
    (hLast : board.Holds last.cell) :
    (∃ walk : List Stride, board.Leads first walk last ∧
      walk.count .ahead = first.cell.distance last.cell) ∧
    ∀ commands : List Command, (∀ command ∈ commands, ∀ pose, command ≠ .place pose) →
      board.robotAfter some (.placed first) commands = .placed last →
      first.cell.distance last.cell ≤ commands.count .move := by
  refine ⟨exists_route hFirst hLast, fun commands hCommands hAfter => ?_⟩
  have hNone : board.NoneLands some commands := by
    intro command hCommand
    cases command with
    | place pose => exact absurd rfl (hCommands _ hCommand pose)
    | _ => rfl
  rw [robotAfter_of_noneLands hNone] at hAfter
  have hDriven : board.driven first (commands.map some) = last := Robot.placed.inj hAfter
  have hLe := board.distance_driven_le first (commands.map some)
  rwa [hDriven, List.count_map_of_injective _ _ (Option.some_injective Command)] at hLe

/-- On a board of one row, where a robot that faces the side has to turn about first. -/
theorem distance_is_least_number_of_steps_in_row :
    let board := Board.mk 4 1
    let first : Pose := ⟨⟨3, 0⟩, .east⟩
    let last : Pose := ⟨⟨1, 0⟩, .north⟩
    let commands : List Command :=
      [.move, .left, .left, .move, .report, .move, .right]
    board.Holds first.cell ∧ board.Holds last.cell ∧
      (∃ walk : List Stride, board.Leads first walk last ∧ walk.count .ahead = 2) ∧
      (∀ command ∈ commands, ∀ pose, command ≠ .place pose) ∧
      board.robotAfter some (.placed first) commands = .placed last ∧
      2 ≤ commands.count .move := by
  intro board first last commands
  have hFirst : board.Holds first.cell := by decide
  have hLast : board.Holds last.cell := by decide
  have hCommands : ∀ command ∈ commands, ∀ pose, command ≠ .place pose := by simp [commands]
  have hAfter : board.robotAfter some (.placed first) commands = .placed last := by decide
  obtain ⟨hWalk, hLeast⟩ := distance_is_least_number_of_steps hFirst hLast
  exact ⟨hFirst, hLast, hWalk, hCommands, hAfter, hLeast commands hCommands hAfter⟩

end Board

end Tabletop
