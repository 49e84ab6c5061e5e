import Mathlib.Data.List.Forall2
import Tabletop.Proofs.Run.Outcomes

/-!
# Parts of a run

What a step does depends on the steps before it only through the robot they leave behind, which is
`Board.robotAfter`. So a run falls into the run over its first lines and the run over the others
from that robot (`stepsFrom_append`, `drop_stepsFrom`), and every step can be named by its line and
the lines before it (`getElem?_stepsFrom`).

Numbers and lines have no part in this: two runs from one robot whose lines are read alike agree
step by step (`forall₂_stepsFrom`), and they give the same reports (`reportsOf_stepsFrom`). Lines
that are no commands add nothing to the reports (`reports_eq_of_filterMap_eq`). The
steps of a run under other numbers are the run that begins with another number
(`renumberedFrom_stepsFrom`, `map_laterBy_stepsFrom`).
-/

namespace Tabletop

/-- Steps at which the same command was read, which leave the same robot, and at which it said the
same. -/
structure Step.Agrees {Line Line' : Type} (first : Step Line) (second : Step Line') : Prop where
  command : first.command = second.command
  robot : first.robot = second.robot
  report : first.report = second.report

/-- The same step, so many lines later. -/
def Step.laterBy {Line : Type} (count : Nat) (step : Step Line) : Step Line :=
  { step with number := step.number + count }

namespace Board

variable {Line Line' : Type}

/-- The robot that a run from the given robot leaves behind. -/
def robotAfter (board : Board) (read? : Line → Option Command) : Robot → List Line → Robot
  | robot, [] => robot
  | robot, line :: lines =>
    board.robotAfter read? (board.executeOrSkip robot (read? line)).robot lines

/-- The robots of a run, the one it begins with and the one after each of its steps. -/
def robotsOf (start : Robot) (steps : List (Step Line)) : List Robot :=
  start :: steps.map Step.robot

/-- The robot that some steps leave behind, which is the one they begin with if there are none. -/
def lastRobot (start : Robot) (steps : List (Step Line)) : Robot :=
  (robotsOf start steps).getLast (List.cons_ne_nil _ _)

/-- The same steps, counted from the given number. -/
def renumberedFrom : Nat → List (Step Line) → List (Step Line)
  | _, [] => []
  | number, step :: steps => { step with number } :: renumberedFrom (number + 1) steps

@[simp] theorem robotAfter_nil (board : Board) (read? : Line → Option Command) (robot : Robot) :
    board.robotAfter read? robot [] = robot := rfl

@[simp] theorem robotAfter_cons (board : Board) (read? : Line → Option Command) (robot : Robot)
    (line : Line) (lines : List Line) :
    board.robotAfter read? robot (line :: lines) =
      board.robotAfter read? (board.executeOrSkip robot (read? line)).robot lines := rfl

theorem robotAfter_append (board : Board) (read? : Line → Option Command) (robot : Robot)
    (lines others : List Line) :
    board.robotAfter read? robot (lines ++ others) =
      board.robotAfter read? (board.robotAfter read? robot lines) others := by
  induction lines generalizing robot with
  | nil => rfl
  | cons line lines ih => rw [List.cons_append, robotAfter_cons, robotAfter_cons, ih]

theorem lastRobot_stepsFrom (board : Board) (read? : Line → Option Command) (number : Nat)
    (robot : Robot) (lines : List Line) :
    lastRobot robot (board.stepsFrom read? number robot lines) =
      board.robotAfter read? robot lines := by
  induction lines generalizing number robot with
  | nil => rfl
  | cons line lines ih =>
    have hRest := ih (number + 1) (board.executeOrSkip robot (read? line)).robot
    rw [robotAfter_cons, ← hRest]
    exact List.getLast_cons (List.cons_ne_nil _ _)

/-! ## The first lines and the rest -/

theorem stepsFrom_append (board : Board) (read? : Line → Option Command) (number : Nat)
    (robot : Robot) (lines others : List Line) :
    board.stepsFrom read? number robot (lines ++ others) =
      board.stepsFrom read? number robot lines ++
        board.stepsFrom read? (number + lines.length) (board.robotAfter read? robot lines)
          others := by
  induction lines generalizing number robot with
  | nil => rfl
  | cons line lines ih =>
    have hNumber : number + 1 + lines.length = number + (line :: lines).length := by
      rw [List.length_cons, Nat.add_assoc, Nat.add_comm 1]
    rw [List.cons_append, stepsFrom_cons, stepsFrom_cons, ih, hNumber, robotAfter_cons,
      List.cons_append]

theorem drop_stepsFrom (board : Board) (read? : Line → Option Command) (number : Nat)
    (robot : Robot) (lines : List Line) (k : Nat) :
    (board.stepsFrom read? number robot lines).drop k =
      board.stepsFrom read? (number + k) (board.robotAfter read? robot (lines.take k))
        (lines.drop k) := by
  induction lines generalizing number robot k with
  | nil => simp
  | cons line lines ih =>
    cases k with
    | zero => rfl
    | succ k =>
      have hNumber : number + 1 + k = number + (k + 1) := by omega
      rw [stepsFrom_cons, List.drop_succ_cons, List.drop_succ_cons, ih, hNumber,
        List.take_succ_cons, robotAfter_cons]

/-! ## One step of a run -/

/-- A step is the first of what is left of the run from there. -/
theorem getElem?_stepsFrom (board : Board) (read? : Line → Option Command) (number : Nat)
    (robot : Robot) (lines : List Line) (k : Nat) :
    (board.stepsFrom read? number robot lines)[k]? = lines[k]?.map fun line =>
      ⟨number + k, line, read? line,
        board.executeOrSkip (board.robotAfter read? robot (lines.take k)) (read? line)⟩ := by
  rw [← List.head?_drop, drop_stepsFrom, ← List.head?_drop]
  cases lines.drop k with
  | nil => rfl
  | cons line rest => rfl

theorem robotAfter_take_succ (board : Board) (read? : Line → Option Command) (robot : Robot)
    {lines : List Line} {line : Line} {k : Nat} (h : lines[k]? = some line) :
    board.robotAfter read? robot (lines.take (k + 1)) =
      (board.executeOrSkip (board.robotAfter read? robot (lines.take k)) (read? line)).robot := by
  rw [List.take_add_one, h, robotAfter_append]
  rfl

theorem robot_of_getElem? {board : Board} {read? : Line → Option Command} {number : Nat}
    {robot : Robot} {lines : List Line} {k : Nat} {step : Step Line}
    (h : (board.stepsFrom read? number robot lines)[k]? = some step) :
    step.robot = board.robotAfter read? robot (lines.take (k + 1)) := by
  rw [getElem?_stepsFrom] at h
  obtain ⟨line, hLine, rfl⟩ := Option.map_eq_some_iff.mp h
  exact (robotAfter_take_succ board read? robot hLine).symm

/-- The robot after the first `k` lines. -/
theorem getElem?_robotsOf (board : Board) (read? : Line → Option Command) (number : Nat)
    (robot : Robot) {lines : List Line} {k : Nat} (hk : k ≤ lines.length) :
    (robotsOf robot (board.stepsFrom read? number robot lines))[k]? =
      some (board.robotAfter read? robot (lines.take k)) := by
  cases k with
  | zero => rfl
  | succ k =>
    have hLine : lines[k]? = some lines[k] := List.getElem?_eq_getElem hk
    rw [robotsOf, List.getElem?_cons_succ, List.getElem?_map, getElem?_stepsFrom, hLine,
      robotAfter_take_succ board read? robot hLine]
    rfl

/-! ## Numbers -/

theorem renumberedFrom_stepsFrom (board : Board) (read? : Line → Option Command)
    (number other : Nat) (robot : Robot) (lines : List Line) :
    renumberedFrom other (board.stepsFrom read? number robot lines) =
      board.stepsFrom read? other robot lines := by
  induction lines generalizing number other robot with
  | nil => rfl
  | cons line lines ih => rw [stepsFrom_cons, stepsFrom_cons, renumberedFrom, ih]

theorem map_laterBy_stepsFrom (board : Board) (read? : Line → Option Command)
    (number count : Nat) (robot : Robot) (lines : List Line) :
    (board.stepsFrom read? number robot lines).map (Step.laterBy count) =
      board.stepsFrom read? (number + count) robot lines := by
  induction lines generalizing number robot with
  | nil => rfl
  | cons line lines ih =>
    have hNumber : number + 1 + count = number + count + 1 := Nat.add_right_comm number 1 count
    rw [stepsFrom_cons, stepsFrom_cons, List.map_cons, ih, hNumber, Step.laterBy]

/-! ## Runs whose lines are read alike -/

theorem forall₂_stepsFrom (board : Board) {read? : Line → Option Command}
    {read'? : Line' → Option Command} {R : Line → Line' → Prop}
    (hRead : ∀ line line', R line line' → read? line = read'? line') (number number' : Nat)
    (robot : Robot) {lines : List Line} {lines' : List Line'} (h : List.Forall₂ R lines lines') :
    List.Forall₂ (fun step step' => R step.line step'.line ∧ step.Agrees step')
      (board.stepsFrom read? number robot lines) (board.stepsFrom read'? number' robot lines') := by
  induction h generalizing number number' robot with
  | nil => exact .nil
  | @cons line line' lines lines' hLine _ ih =>
    rw [stepsFrom_cons, stepsFrom_cons, hRead line line' hLine]
    exact .cons ⟨hLine, rfl, rfl, rfl⟩ (ih _ _ _)

theorem reportsOf_stepsFrom (board : Board) (read? : Line → Option Command) (number : Nat)
    (robot : Robot) (lines : List Line) :
    reportsOf (board.stepsFrom read? number robot lines) =
      (board.outcomes robot (lines.map read?)).filterMap Outcome.report := by
  rw [← map_outcome_stepsFrom board read? number, List.filterMap_map]
  rfl

/-- Commands that are missing add nothing to what the robot says. -/
theorem filterMap_report_outcomes (board : Board) (read? : Line → Option Command) (robot : Robot)
    (lines : List Line) :
    (board.outcomes robot (lines.map read?)).filterMap Outcome.report =
      (board.outcomes robot ((lines.filterMap read?).map some)).filterMap Outcome.report := by
  induction lines generalizing robot with
  | nil => rfl
  | cons line lines ih =>
    rw [List.map_cons, outcomes_cons]
    cases hRead : read? line with
    | none =>
      have hSilent : (board.executeOrSkip robot none).report = none := rfl
      rw [List.filterMap_cons_none hSilent, List.filterMap_cons_none hRead, executeOrSkip, ih]
    | some command =>
      rw [List.filterMap_cons_some hRead, List.map_cons, outcomes_cons, List.filterMap_cons,
        List.filterMap_cons, ih]

/-- What the robot says depends on the commands among the lines only. -/
theorem reports_eq_of_filterMap_eq (board : Board) {lines others : List Text}
    (h : lines.filterMap Command.ofLine? = others.filterMap Command.ofLine?) :
    board.reports lines = board.reports others := by
  simp only [reports, run, runFrom, reportsOf_stepsFrom]
  rw [filterMap_report_outcomes, h, ← filterMap_report_outcomes]

/-- A first line that is no command adds nothing to the reports. -/
theorem reports_cons_of_none (board : Board) {line : Text} (h : Command.ofLine? line = none)
    (lines : List Text) : board.reports (line :: lines) = board.reports lines :=
  board.reports_eq_of_filterMap_eq (List.filterMap_cons_none h)

end Board

end Tabletop
