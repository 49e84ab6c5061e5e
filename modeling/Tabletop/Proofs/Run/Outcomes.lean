import Mathlib.Data.List.Chain
import Tabletop.Run

/-!
# The outcomes of a series of commands

A run over lines and a series of requests do the same thing: they execute or skip one command
after the other. `Board.outcomes` is that series by itself, over commands of which some may be
missing, and both drivers are equal to it (`map_outcome_stepsFrom`, `executeAll_map_some`).

`Board.Transition` lists what a single step can do. A fact about every step of a series follows
from it by `exists_before_of_mem_outcomes`, and a fact about the robot before and after every
step by `isChain_outcomes`, or about any two robots of the series by `pairwise_outcomes`.
-/

namespace Tabletop

/-- The cell of a robot that has been placed. -/
def Robot.cell? (robot : Robot) : Option Cell := robot.pose?.map Pose.cell

/-- The heading of a robot that has been placed. -/
def Robot.heading? (robot : Robot) : Option Heading := robot.pose?.map Pose.heading

/-- The command that was handed in, unless it was something else. -/
def Request.command? : Request → Option Command
  | known command => some command
  | foreign _ => none

namespace Board

/-! ## One step -/

/-- What a command, or a missing one, does to a robot, and what it makes the robot say. -/
inductive Transition (board : Board) : Robot → Option Command → Outcome → Prop
  | placed {robot : Robot} {pose : Pose} (hOn : board.Holds pose.cell) :
      Transition board robot (some (.place pose)) ⟨.placed pose, none⟩
  | refused {robot : Robot} {pose : Pose} (hOff : ¬ board.Holds pose.cell) :
      Transition board robot (some (.place pose)) ⟨robot, none⟩
  | moved {pose : Pose} (hOn : board.Holds (pose.cell.next pose.heading)) :
      Transition board (.placed pose) (some .move)
        ⟨.placed ⟨pose.cell.next pose.heading, pose.heading⟩, none⟩
  | blocked {pose : Pose} (hOff : ¬ board.Holds (pose.cell.next pose.heading)) :
      Transition board (.placed pose) (some .move) ⟨.placed pose, none⟩
  | turnedLeft {pose : Pose} :
      Transition board (.placed pose) (some .left) ⟨.placed ⟨pose.cell, pose.heading.left⟩, none⟩
  | turnedRight {pose : Pose} :
      Transition board (.placed pose) (some .right) ⟨.placed ⟨pose.cell, pose.heading.right⟩, none⟩
  | reported {pose : Pose} :
      Transition board (.placed pose) (some .report) ⟨.placed pose, some pose.report⟩
  | unready {command : Command} (hOther : ∀ pose, command ≠ .place pose) :
      Transition board .unplaced (some command) ⟨.unplaced, none⟩
  | skipped {robot : Robot} : Transition board robot none ⟨robot, none⟩

theorem transition_place (board : Board) (robot : Robot) (pose : Pose) :
    board.Transition robot (some (.place pose)) ⟨board.place robot pose, none⟩ := by
  unfold place
  split
  · rename_i hOn
    exact .placed hOn
  · rename_i hOff
    exact .refused hOff

theorem transition_move (board : Board) (pose : Pose) :
    board.Transition (.placed pose) (some .move) ⟨.placed (board.step pose), none⟩ := by
  unfold step
  split
  · rename_i hOn
    exact .moved hOn
  · rename_i hOff
    exact .blocked hOff

/-- Every step is one of the transitions. -/
theorem transition_executeOrSkip (board : Board) (robot : Robot) (command : Option Command) :
    board.Transition robot command (board.executeOrSkip robot command) := by
  cases command with
  | none => exact .skipped
  | some command =>
    cases robot with
    | unplaced =>
      cases command with
      | place pose => exact transition_place board .unplaced pose
      | move => exact .unready (by simp)
      | left => exact .unready (by simp)
      | right => exact .unready (by simp)
      | report => exact .unready (by simp)
    | placed pose =>
      cases command with
      | place target => exact transition_place board (.placed pose) target
      | move => exact transition_move board pose
      | left => exact .turnedLeft
      | right => exact .turnedRight
      | report => exact .reported

/-- A placement on the board leads to its pose, whatever was before. -/
theorem executeOrSkip_place {board : Board} {pose : Pose} (h : board.Holds pose.cell)
    (robot : Robot) :
    board.executeOrSkip robot (some (.place pose)) = ⟨.placed pose, none⟩ := by
  have hPlace : board.place robot pose = .placed pose := if_pos h
  cases robot <;> simp only [executeOrSkip, execute, hPlace]

/-- A robot and a command have one transition only. -/
theorem executeOrSkip_of_transition {board : Board} {robot : Robot} {command : Option Command}
    {outcome : Outcome} (h : board.Transition robot command outcome) :
    board.executeOrSkip robot command = outcome := by
  cases h with
  | placed hOn => exact executeOrSkip_place hOn robot
  | @refused _ pose hOff =>
    have hPlace : board.place robot pose = robot := if_neg hOff
    cases robot <;> simp only [executeOrSkip, execute, hPlace]
  | moved hOn => simp only [executeOrSkip, execute, step, if_pos hOn]
  | blocked hOff => simp only [executeOrSkip, execute, step, if_neg hOff]
  | turnedLeft => rfl
  | turnedRight => rfl
  | reported => rfl
  | @unready command hOther =>
    cases command with
    | place pose => exact absurd rfl (hOther pose)
    | _ => rfl
  | skipped => rfl

/-! ## A series of steps -/

/-- The outcomes of a series of commands, of which some may be missing. -/
def outcomes (board : Board) : Robot → List (Option Command) → List Outcome
  | _, [] => []
  | robot, command :: commands =>
    board.executeOrSkip robot command ::
      board.outcomes (board.executeOrSkip robot command).robot commands

@[simp] theorem outcomes_nil (board : Board) (robot : Robot) : board.outcomes robot [] = [] := rfl

@[simp] theorem outcomes_cons (board : Board) (robot : Robot) (command : Option Command)
    (commands : List (Option Command)) :
    board.outcomes robot (command :: commands) =
      board.executeOrSkip robot command ::
        board.outcomes (board.executeOrSkip robot command).robot commands := rfl

@[simp] theorem length_outcomes (board : Board) (robot : Robot) (commands : List (Option Command)) :
    (board.outcomes robot commands).length = commands.length := by
  induction commands generalizing robot with
  | nil => rfl
  | cons command commands ih => simp [ih]

/-- A run has the outcomes of the commands that its lines stand for. -/
theorem map_outcome_stepsFrom {Line : Type} (board : Board) (read? : Line → Option Command)
    (number : Nat) (robot : Robot) (lines : List Line) :
    (board.stepsFrom read? number robot lines).map Step.outcome =
      board.outcomes robot (lines.map read?) := by
  induction lines generalizing number robot with
  | nil => rfl
  | cons line lines ih => simp [ih]

theorem map_line_stepsFrom {Line : Type} (board : Board) (read? : Line → Option Command)
    (number : Nat) (robot : Robot) (lines : List Line) :
    (board.stepsFrom read? number robot lines).map Step.line = lines := by
  induction lines generalizing number robot with
  | nil => rfl
  | cons line lines ih => rw [stepsFrom_cons, List.map_cons, ih]

/-- A series of requests, none of them missing, has the outcomes of its commands. None of them is
refused. -/
theorem executeAll_map_some (board : Board) (robot : Robot) (requests : List Request) :
    board.executeAll (some robot) (requests.map some) =
      (board.outcomes robot (requests.map Request.command?)).map .ok := by
  induction requests generalizing robot with
  | nil => rfl
  | cons request requests ih =>
    cases request with
    | known command => simp [executeAll, execute?, executeOrSkip, Request.command?, ih]
    | foreign kind => simp [executeAll, execute?, executeOrSkip, Request.command?, ih]

theorem exists_before_of_mem_outcomes {board : Board} {robot : Robot}
    {commands : List (Option Command)} {outcome : Outcome}
    (h : outcome ∈ board.outcomes robot commands) :
    ∃ before command, board.Transition before command outcome := by
  induction commands generalizing robot with
  | nil => cases h
  | cons command commands ih =>
    rw [outcomes_cons] at h
    rcases List.mem_cons.mp h with rfl | h
    · exact ⟨robot, command, transition_executeOrSkip board robot command⟩
    · exact ih h

theorem exists_transition_of_mem_stepsFrom {Line : Type} {board : Board}
    {read? : Line → Option Command} {number : Nat} {robot : Robot} {lines : List Line}
    {step : Step Line} (h : step ∈ board.stepsFrom read? number robot lines) :
    ∃ before, board.Transition before step.command step.outcome := by
  induction lines generalizing number robot with
  | nil => cases h
  | cons line lines ih =>
    rw [stepsFrom_cons] at h
    rcases List.mem_cons.mp h with rfl | hLater
    · exact ⟨robot, transition_executeOrSkip board robot (read? line)⟩
    · exact ih hLater

/-- What holds between the robot before and after every step links the robots of a series. -/
theorem isChain_outcomes {board : Board} {R : Robot → Robot → Prop}
    (hStep : ∀ before command outcome, board.Transition before command outcome →
      R before outcome.robot)
    (robot : Robot) (commands : List (Option Command)) :
    List.IsChain R (robot :: (board.outcomes robot commands).map Outcome.robot) := by
  induction commands generalizing robot with
  | nil => exact .singleton robot
  | cons command commands ih =>
    rw [outcomes_cons, List.map_cons, List.isChain_cons_cons]
    exact ⟨hStep robot command _ (transition_executeOrSkip board robot command), ih _⟩

/-- What carries over from step to step holds between any two robots of a series. -/
theorem pairwise_outcomes {board : Board} {R : Robot → Robot → Prop}
    (hTrans : ∀ first second third, R first second → R second third → R first third)
    (hStep : ∀ before command outcome, board.Transition before command outcome →
      R before outcome.robot)
    (robot : Robot) (commands : List (Option Command)) :
    List.Pairwise R (robot :: (board.outcomes robot commands).map Outcome.robot) := by
  have hTransR : Trans R R R := ⟨hTrans _ _ _⟩
  exact (isChain_outcomes hStep robot commands).pairwise

end Board

end Tabletop
