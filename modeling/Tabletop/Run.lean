import Tabletop.Command.Reader
import Tabletop.Execution

/-!
# Runs

A run goes through a list of lines in order, with one step for each. A line that stands for a
command is executed; any other line is skipped and leaves the robot as it is. What a line is, and
how it is read, is a parameter of `Board.stepsFrom`; `Board.run` is the run over texts from a
robot that has not been placed, and `Board.reports` what the robot says on it.
-/

namespace Tabletop

/-- What happened at one line. -/
structure Step (Line : Type) where
  /-- The place of the line, counted from one. -/
  number : Nat
  line : Line
  /-- The command the line stands for, if it stands for one. -/
  command : Option Command
  /-- The robot after the line, and what it said. -/
  outcome : Outcome
  deriving DecidableEq, Repr

namespace Step

variable {Line : Type}

/-- Whether the line stands for a command. -/
def accepted (step : Step Line) : Bool := step.command.isSome

/-- The robot after the step. -/
def robot (step : Step Line) : Robot := step.outcome.robot

/-- What the robot said at the step. -/
def report (step : Step Line) : Option Text := step.outcome.report

end Step

namespace Board

variable {Line : Type}

/-- A command, or nothing, applied to a robot. -/
def executeOrSkip (board : Board) (robot : Robot) : Option Command → Outcome
  | some command => board.execute robot command
  | none => ⟨robot, none⟩

/-- The steps of a run over `lines` whose first line has the given number. -/
def stepsFrom (board : Board) (read? : Line → Option Command) :
    Nat → Robot → List Line → List (Step Line)
  | _, _, [] => []
  | number, robot, line :: lines =>
    let outcome := board.executeOrSkip robot (read? line)
    ⟨number, line, read? line, outcome⟩ ::
      board.stepsFrom read? (number + 1) outcome.robot lines

/-- The steps of a run over texts from the given robot. -/
def runFrom (board : Board) (robot : Robot) (lines : List Text) : List (Step Text) :=
  board.stepsFrom Command.ofLine? 1 robot lines

/-- The steps of a run over texts from a robot that has not been placed. -/
def run (board : Board) (lines : List Text) : List (Step Text) := board.runFrom .unplaced lines

/-- The steps of a run in which some lines may be missing. A missing line is no command. -/
def runSparse (board : Board) (robot : Robot) (lines : List (Option Text)) :
    List (Step (Option Text)) :=
  board.stepsFrom (·.bind Command.ofLine?) 1 robot lines

/-- What the robot says on a run, in order. -/
def reportsOf (steps : List (Step Line)) : List Text := steps.filterMap Step.report

/-- What a robot that has not been placed says on a run over texts. -/
def reports (board : Board) (lines : List Text) : List Text := reportsOf (board.run lines)

@[simp] theorem reportsOf_nil : reportsOf ([] : List (Step Line)) = [] := rfl

@[simp] theorem reportsOf_cons (step : Step Line) (steps : List (Step Line)) :
    reportsOf (step :: steps) = step.report.toList ++ reportsOf steps := by
  unfold reportsOf
  cases hReport : step.report with
  | none => rw [List.filterMap_cons_none hReport]; rfl
  | some report => rw [List.filterMap_cons_some hReport]; rfl

@[simp] theorem stepsFrom_nil (board : Board) (read? : Line → Option Command) (number : Nat)
    (robot : Robot) : board.stepsFrom read? number robot [] = [] := rfl

@[simp] theorem stepsFrom_cons (board : Board) (read? : Line → Option Command) (number : Nat)
    (robot : Robot) (line : Line) (lines : List Line) :
    board.stepsFrom read? number robot (line :: lines) =
      ⟨number, line, read? line, board.executeOrSkip robot (read? line)⟩ ::
        board.stepsFrom read? (number + 1) (board.executeOrSkip robot (read? line)).robot
          lines := rfl

@[simp] theorem length_stepsFrom (board : Board) (read? : Line → Option Command) (number : Nat)
    (robot : Robot) (lines : List Line) :
    (board.stepsFrom read? number robot lines).length = lines.length := by
  induction lines generalizing number robot with
  | nil => rfl
  | cons line lines ih => simp [ih]

end Board

end Tabletop
