import Tabletop.Proofs.Run.OnBoard
import Tabletop.Proofs.Run.Parts

/-!
# Larger boards

The board has a say in a run only where it refuses something, a placement or a step whose target is
not on it. Up to the first refusal a larger board makes no difference (`take_untilRefusal`). There
the robot stays where it was, which is on the board if it is placed at all, and on a larger board
that holds the target it leaves for the target. So the two robots part
(`larger_board_parts_at_refusal`).
-/

namespace Tabletop

/-- The cell to which a command would bring a robot. Only placements, and steps of a robot that has
been placed, have such a target. -/
def Robot.target? : Robot → Option Command → Option Cell
  | _, some (.place pose) => some pose.cell
  | .placed pose, some .move => some (pose.cell.next pose.heading)
  | _, _ => none

namespace Board

variable {Line : Type}

/-- What is asked of the robot has a target that is not on the board. -/
def Refuses (board : Board) (robot : Robot) (command : Option Command) : Prop :=
  ∃ cell ∈ robot.target? command, ¬ board.Holds cell

instance (board : Board) (robot : Robot) (command : Option Command) :
    Decidable (board.Refuses robot command) :=
  inferInstanceAs (Decidable (∃ cell ∈ robot.target? command, ¬ board.Holds cell))

/-- The steps of a run, each with the robot before it. -/
def withRobots (start : Robot) (steps : List (Step Line)) : List (Robot × Step Line) :=
  (robotsOf start steps).zip steps

/-- How many steps of a run come before the first at which the board refuses something. -/
def untilRefusal (board : Board) (start : Robot) (steps : List (Step Line)) : Nat :=
  (withRobots start steps).findIdx fun pair => board.Refuses pair.1 pair.2.command

/-- The other board is at least as wide and as high. -/
structure Within (board larger : Board) : Prop where
  width : board.width ≤ larger.width
  height : board.height ≤ larger.height

/-- How a run over some lines and the run over the same lines on a larger board part. -/
structure PartAtRefusal (board larger : Board) (start : Robot)
    (steps others : List (Step Line)) : Prop where
  /-- Up to the first refusal the steps are the same. -/
  before : others.take (board.untilRefusal start steps) =
    steps.take (board.untilRefusal start steps)
  /-- If nothing is refused, all steps are the same. -/
  unrefused : (∀ pair ∈ withRobots start steps, ¬ board.Refuses pair.1 pair.2.command) →
    others = steps
  /-- At the first refusal the robots part, if its target is on the larger board. -/
  parted : ∀ robot step cell,
    (withRobots start steps)[board.untilRefusal start steps]? = some (robot, step) →
    robot.target? step.command = some cell → larger.Holds cell →
    ∃ other, others[board.untilRefusal start steps]? = some other ∧ other.robot ≠ step.robot

theorem Within.holds {board larger : Board} (h : board.Within larger) {cell : Cell}
    (hOn : board.Holds cell) : larger.Holds cell := by
  have hWidth := h.width
  have hHeight := h.height
  rw [holds_iff] at hOn ⊢
  omega

/-! ## One step -/

/-- Unless the board refuses it, a step goes the same way on a larger board. -/
theorem executeOrSkip_of_not_refuses {board larger : Board} (hWithin : board.Within larger)
    {robot : Robot} {command : Option Command} (h : ¬ board.Refuses robot command) :
    larger.executeOrSkip robot command = board.executeOrSkip robot command := by
  have hStep := transition_executeOrSkip board robot command
  apply executeOrSkip_of_transition
  generalize board.executeOrSkip robot command = outcome at hStep ⊢
  cases hStep with
  | placed hOn => exact .placed (hWithin.holds hOn)
  | refused hOff => exact absurd ⟨_, rfl, hOff⟩ h
  | moved hOn => exact .moved (hWithin.holds hOn)
  | blocked hOff => exact absurd ⟨_, rfl, hOff⟩ h
  | turnedLeft => exact .turnedLeft
  | turnedRight => exact .turnedRight
  | reported => exact .reported
  | unready hOther => exact .unready hOther
  | skipped => exact .skipped

/-- A robot comes to its target if the board holds that, and otherwise stays where it is. -/
theorem cell?_of_target {board : Board} {robot : Robot} {command : Option Command} {cell : Cell}
    (hTarget : robot.target? command = some cell) :
    (board.executeOrSkip robot command).robot.cell? =
      if board.Holds cell then some cell else robot.cell? := by
  have hStep := transition_executeOrSkip board robot command
  generalize board.executeOrSkip robot command = outcome at hStep ⊢
  cases hStep with
  | placed hOn =>
    cases hTarget
    rw [if_pos hOn]
    rfl
  | refused hOff =>
    cases hTarget
    rw [if_neg hOff]
  | moved hOn =>
    cases hTarget
    rw [if_pos hOn]
    rfl
  | blocked hOff =>
    cases hTarget
    rw [if_neg hOff]
  | @unready command hOther =>
    cases command with
    | place pose => exact absurd rfl (hOther pose)
    | _ => cases hTarget
  | _ => cases hTarget

/-- A target that only the larger board holds takes the robot there to where it cannot be on the
other board. -/
theorem robot_ne_of_target {board larger : Board} {robot : Robot} {command : Option Command}
    {cell : Cell} (hRobot : ∀ c, robot.cell? = some c → board.Holds c)
    (hTarget : robot.target? command = some cell) (hOff : ¬ board.Holds cell)
    (hOn : larger.Holds cell) :
    (larger.executeOrSkip robot command).robot ≠ (board.executeOrSkip robot command).robot := by
  intro hSame
  have hCells := congrArg Robot.cell? hSame
  rw [cell?_of_target hTarget, cell?_of_target hTarget, if_pos hOn, if_neg hOff] at hCells
  exact hOff (hRobot cell hCells.symm)

/-! ## A run -/

variable {board larger : Board} {read? : Line → Option Command} {number : Nat} {start : Robot}
  {line : Line} {lines : List Line}

theorem withRobots_stepsFrom_cons :
    withRobots start (board.stepsFrom read? number start (line :: lines)) =
      (start, ⟨number, line, read? line, board.executeOrSkip start (read? line)⟩) ::
        withRobots (board.executeOrSkip start (read? line)).robot
          (board.stepsFrom read? (number + 1) (board.executeOrSkip start (read? line)).robot
            lines) := rfl

theorem untilRefusal_of_refuses (h : board.Refuses start (read? line)) :
    board.untilRefusal start (board.stepsFrom read? number start (line :: lines)) = 0 := by
  rw [untilRefusal, withRobots_stepsFrom_cons, List.findIdx_cons]
  simp [h]

theorem untilRefusal_of_not_refuses (h : ¬ board.Refuses start (read? line)) :
    board.untilRefusal start (board.stepsFrom read? number start (line :: lines)) =
      board.untilRefusal (board.executeOrSkip start (read? line)).robot
        (board.stepsFrom read? (number + 1) (board.executeOrSkip start (read? line)).robot
          lines) + 1 := by
  rw [untilRefusal, withRobots_stepsFrom_cons, List.findIdx_cons]
  simp [h, untilRefusal]

theorem take_untilRefusal (hWithin : board.Within larger) :
    (larger.stepsFrom read? number start lines).take
        (board.untilRefusal start (board.stepsFrom read? number start lines)) =
      (board.stepsFrom read? number start lines).take
        (board.untilRefusal start (board.stepsFrom read? number start lines)) := by
  induction lines generalizing number start with
  | nil => rfl
  | cons line lines ih =>
    by_cases hRefuses : board.Refuses start (read? line)
    · rw [untilRefusal_of_refuses hRefuses, List.take_zero, List.take_zero]
    · rw [untilRefusal_of_not_refuses hRefuses, stepsFrom_cons, stepsFrom_cons,
        executeOrSkip_of_not_refuses hWithin hRefuses, List.take_succ_cons, List.take_succ_cons, ih]

theorem stepsFrom_of_unrefused (hWithin : board.Within larger)
    (h : ∀ pair ∈ withRobots start (board.stepsFrom read? number start lines),
      ¬ board.Refuses pair.1 pair.2.command) :
    larger.stepsFrom read? number start lines = board.stepsFrom read? number start lines := by
  induction lines generalizing number start with
  | nil => rfl
  | cons line lines ih =>
    rw [withRobots_stepsFrom_cons] at h
    obtain ⟨hFirst, hRest⟩ := List.forall_mem_cons.mp h
    rw [stepsFrom_cons, stepsFrom_cons, executeOrSkip_of_not_refuses hWithin hFirst, ih hRest]

/-- The robots part at the first refusal. Up to there they are the same, and on the smaller board
if they are placed. -/
theorem exists_parted (hWithin : board.Within larger)
    (hStart : ∀ c, start.cell? = some c → board.Holds c) {robot : Robot} {step : Step Line}
    {cell : Cell}
    (hStep : (withRobots start (board.stepsFrom read? number start lines))[board.untilRefusal start
      (board.stepsFrom read? number start lines)]? = some (robot, step))
    (hTarget : robot.target? step.command = some cell) (hOn : larger.Holds cell) :
    ∃ other, (larger.stepsFrom read? number start lines)[board.untilRefusal start
        (board.stepsFrom read? number start lines)]? = some other ∧
      other.robot ≠ step.robot := by
  induction lines generalizing number start with
  | nil => cases hStep
  | cons line lines ih =>
    by_cases hRefuses : board.Refuses start (read? line)
    · rw [untilRefusal_of_refuses hRefuses] at hStep ⊢
      cases hStep
      obtain ⟨target, hMem, hOff⟩ := hRefuses
      have hSame : target = cell := Option.some.inj (hMem.symm.trans hTarget)
      rw [hSame] at hOff
      exact ⟨_, rfl, robot_ne_of_target hStart hTarget hOff hOn⟩
    · rw [untilRefusal_of_not_refuses hRefuses] at hStep ⊢
      rw [stepsFrom_cons, executeOrSkip_of_not_refuses hWithin hRefuses]
      refine ih (fun c hCell => ?_) hStep
      have hKeeps := keepsCell_of_transition (transition_executeOrSkip board start (read? line))
      rcases hKeeps with hSame | hHosts
      · exact hStart c (hSame ▸ hCell)
      · exact hHosts.holds hCell

theorem partAtRefusal_stepsFrom (hWithin : board.Within larger)
    (hStart : start = .unplaced ∨ board.Hosts start) :
    board.PartAtRefusal larger start (board.stepsFrom read? number start lines)
      (larger.stepsFrom read? number start lines) where
  before := take_untilRefusal hWithin
  unrefused := stepsFrom_of_unrefused hWithin
  parted := by
    intro robot step cell hStep hTarget hOn
    refine exists_parted hWithin (fun c hCell => ?_) hStep hTarget hOn
    rcases hStart with rfl | hHosts
    · cases hCell
    · exact hHosts.holds hCell

/-- On a larger board, a run from a robot that is on the smaller one, or not placed yet, takes the
same steps until the smaller board refuses something, and the same steps throughout if it refuses
nothing. Where it first refuses a target that the larger board holds, the robots part. -/
theorem larger_board_parts_at_refusal {board larger : Board} (hWithin : board.Within larger)
    {start : Robot} (hStart : start = .unplaced ∨ board.Hosts start) :
    (∀ lines : List Text, board.PartAtRefusal larger start (board.runFrom start lines)
      (larger.runFrom start lines)) ∧
    ∀ lines : List (Option Text), board.PartAtRefusal larger start (board.runSparse start lines)
      (larger.runSparse start lines) :=
  ⟨fun _ => partAtRefusal_stepsFrom hWithin hStart, fun _ => partAtRefusal_stepsFrom hWithin hStart⟩

/-- A step beyond the east side of a board that is two cells wide. -/
theorem larger_board_parts_at_east_side :
    let board := Board.mk 2 3
    let larger := Board.mk 4 3
    let lines : List Text :=
      ["PLACE 1,1,EAST".toList, "REPORT".toList, "MOVE".toList, "REPORT".toList]
    board.Within larger ∧
      (larger.run lines).take 2 = (board.run lines).take 2 ∧
      ∃ other, (larger.run lines)[2]? = some other ∧ other.robot ≠ .placed ⟨⟨1, 1⟩, .east⟩ := by
  intro board larger lines
  have hWithin : board.Within larger := ⟨by decide, by decide⟩
  have hCount : board.untilRefusal .unplaced (board.runFrom .unplaced lines) = 2 := by decide
  have hParts := (larger_board_parts_at_refusal hWithin (Or.inl rfl)).1 lines
  have hBefore := hParts.before
  have hParted := hParts.parted (.placed ⟨⟨1, 1⟩, .east⟩)
    ⟨3, "MOVE".toList, some .move, ⟨.placed ⟨⟨1, 1⟩, .east⟩, none⟩⟩ ⟨2, 1⟩
  rw [hCount] at hBefore hParted
  exact ⟨hWithin, hBefore, hParted rfl rfl (by decide)⟩

end Board

end Tabletop
