import Mathlib.Data.Finset.Insert
import Tabletop.Proofs.Run.Parts

/-!
# Lines that do nothing

A line that is no command, a report, a refused placement, a blocked step and, before the first
placement, anything else leave a robot as it was. Nothing else does, but for a placement on the
pose that the robot has (`robot_eq_iff_idle`).

Such lines can be left out of a run, any number of them at once and wherever they stand: the
steps at the other lines stay what they were, only their numbers count anew
(`idle_lines_left_out`).
-/

namespace Tabletop

theorem Cell.next_ne (cell : Cell) (heading : Heading) : cell.next heading ≠ cell := by
  intro h
  have hx : cell.x + heading.dx = cell.x := congrArg Cell.x h
  have hy : cell.y + heading.dy = cell.y := congrArg Cell.y h
  cases heading <;> simp only [Heading.dx, Heading.dy] at hx hy <;> omega

theorem Heading.left_ne (heading : Heading) : heading.left ≠ heading := by
  cases heading <;> decide

theorem Heading.right_ne (heading : Heading) : heading.right ≠ heading := by
  cases heading <;> decide

namespace Board

variable {Line : Type}

/-! ## One step -/

/-- A command, or a missing one, that does nothing to the robot. -/
inductive Idle (board : Board) : Robot → Option Command → Prop
  | rejected {robot : Robot} : Idle board robot none
  | reported {robot : Robot} : Idle board robot (some .report)
  | refused {robot : Robot} {pose : Pose} (hOff : ¬ board.Holds pose.cell) :
      Idle board robot (some (.place pose))
  | blocked {pose : Pose} (hOff : ¬ board.Holds (pose.cell.next pose.heading)) :
      Idle board (.placed pose) (some .move)
  | unready {command : Command} (hOther : ∀ pose, command ≠ .place pose) :
      Idle board .unplaced (some command)
  | replaced {pose : Pose} : Idle board (.placed pose) (some (.place pose))

/-- Only steps and turns that are carried out, and placements elsewhere, change a robot. -/
theorem robot_eq_iff_of_transition {board : Board} {before : Robot} {command : Option Command}
    {outcome : Outcome} (h : board.Transition before command outcome) :
    outcome.robot = before ↔ board.Idle before command := by
  cases h with
  | @placed _ pose hOn =>
    constructor
    · rintro rfl
      exact .replaced
    · intro hIdle
      cases hIdle with
      | refused hOff => exact absurd hOn hOff
      | unready hOther => exact absurd rfl (hOther pose)
      | replaced => rfl
  | refused hOff => exact iff_of_true rfl (.refused hOff)
  | @moved pose hOn =>
    refine iff_of_false (fun hSame => ?_) (fun hIdle => ?_)
    · exact pose.cell.next_ne pose.heading (congrArg Pose.cell (Robot.placed.inj hSame))
    · cases hIdle with
      | blocked hOff => exact hOff hOn
  | blocked hOff => exact iff_of_true rfl (.blocked hOff)
  | @turnedLeft pose =>
    refine iff_of_false (fun hSame => ?_) (fun hIdle => nomatch hIdle)
    exact pose.heading.left_ne (congrArg Pose.heading (Robot.placed.inj hSame))
  | @turnedRight pose =>
    refine iff_of_false (fun hSame => ?_) (fun hIdle => nomatch hIdle)
    exact pose.heading.right_ne (congrArg Pose.heading (Robot.placed.inj hSame))
  | reported => exact iff_of_true rfl .reported
  | unready hOther => exact iff_of_true rfl (.unready hOther)
  | skipped => exact iff_of_true rfl .rejected

/-- A step leaves the robot as it was exactly if its command does nothing to that robot. -/
theorem robot_eq_iff_idle (board : Board) (robot : Robot) (command : Option Command) :
    (board.executeOrSkip robot command).robot = robot ↔ board.Idle robot command :=
  robot_eq_iff_of_transition (transition_executeOrSkip board robot command)

/-! ## Many steps -/

/-- The lines whose numbers are none of the given ones. The first line has the number `first`. -/
def leaveOut (numbers : Finset Nat) (first : Nat) (lines : List Line) : List Line :=
  ((lines.zipIdx first).filter fun item => item.2 ∉ numbers).map Prod.fst

/-- Of some steps that begin with the robot `start`, those with the given numbers leave the robot
as it was. Every step is paired with the robot before it. -/
def IdleAt (numbers : Finset Nat) (start : Robot) (steps : List (Step Line)) : Prop :=
  ∀ pair ∈ (robotsOf start steps).zip steps, pair.2.number ∈ numbers → pair.2.robot = pair.1

instance (numbers : Finset Nat) (start : Robot) (steps : List (Step Line)) :
    Decidable (IdleAt numbers start steps) :=
  inferInstanceAs (Decidable (∀ pair ∈ (robotsOf start steps).zip steps, _))

theorem leaveOut_cons_of_mem {numbers : Finset Nat} {first : Nat} (h : first ∈ numbers)
    (line : Line) (lines : List Line) :
    leaveOut numbers first (line :: lines) = leaveOut numbers (first + 1) lines := by
  rw [leaveOut, List.zipIdx_cons, List.filter_cons_of_neg (by simpa using h), leaveOut]

theorem leaveOut_cons_of_notMem {numbers : Finset Nat} {first : Nat} (h : first ∉ numbers)
    (line : Line) (lines : List Line) :
    leaveOut numbers first (line :: lines) = line :: leaveOut numbers (first + 1) lines := by
  rw [leaveOut, List.zipIdx_cons, List.filter_cons_of_pos (by simpa using h), List.map_cons,
    leaveOut]

theorem idleAt_stepsFrom_cons {board : Board} {read? : Line → Option Command}
    {numbers : Finset Nat} {first : Nat} {robot : Robot} {line : Line} {lines : List Line} :
    IdleAt numbers robot (board.stepsFrom read? first robot (line :: lines)) ↔
      (first ∈ numbers → (board.executeOrSkip robot (read? line)).robot = robot) ∧
        IdleAt numbers (board.executeOrSkip robot (read? line)).robot
          (board.stepsFrom read? (first + 1) (board.executeOrSkip robot (read? line)).robot
            lines) :=
  List.forall_mem_cons

/-- The steps of a run over the lines that are left, counted from any number. -/
theorem stepsFrom_leaveOut {board : Board} {read? : Line → Option Command}
    {numbers : Finset Nat} {first : Nat} {robot : Robot} {lines : List Line}
    (h : IdleAt numbers robot (board.stepsFrom read? first robot lines)) (number : Nat) :
    board.stepsFrom read? number robot (leaveOut numbers first lines) =
      renumberedFrom number
        ((board.stepsFrom read? first robot lines).filter fun step => step.number ∉ numbers) := by
  induction lines generalizing first robot number with
  | nil => rfl
  | cons line lines ih =>
    obtain ⟨hIdle, hRest⟩ := idleAt_stepsFrom_cons.mp h
    rw [stepsFrom_cons]
    by_cases hOut : first ∈ numbers
    · -- the lines behind the one left out find the robot that was before it
      have hSame : (board.executeOrSkip robot (read? line)).robot = robot := hIdle hOut
      rw [hSame] at hRest
      rw [leaveOut_cons_of_mem hOut, List.filter_cons_of_neg (by simpa using hOut), hSame]
      exact ih hRest number
    · rw [leaveOut_cons_of_notMem hOut, List.filter_cons_of_pos (by simpa using hOut),
        stepsFrom_cons, renumberedFrom, ih hRest (number + 1)]

/-- Lines at which a run leaves the robot as it was can be left out, whichever of them and wherever
they stand. The run over the other lines takes the steps that the whole run takes at them, counted
from one. The lines in question are those that are no command, that ask for a report, that are
refused or blocked, that come too early, and that place a robot where it stands. -/
theorem idle_lines_left_out (board : Board) (start : Robot) (numbers : Finset Nat) :
    (∀ robot command,
      (board.executeOrSkip robot command).robot = robot ↔ board.Idle robot command) ∧
    (∀ lines : List Text, IdleAt numbers start (board.runFrom start lines) →
      board.runFrom start (leaveOut numbers 1 lines) =
        renumberedFrom 1
          ((board.runFrom start lines).filter fun step => step.number ∉ numbers)) ∧
    ∀ lines : List (Option Text), IdleAt numbers start (board.runSparse start lines) →
      board.runSparse start (leaveOut numbers 1 lines) =
        renumberedFrom 1
          ((board.runSparse start lines).filter fun step => step.number ∉ numbers) := by
  refine ⟨board.robot_eq_iff_idle, fun lines hIdle => ?_, fun lines hIdle => ?_⟩
  · exact stepsFrom_leaveOut hIdle 1
  · exact stepsFrom_leaveOut hIdle 1

/-- Lines of every kind that does nothing, left out at once. -/
theorem idle_lines_left_out_of_walk :
    let board := Board.mk 3 2
    let lines : List Text :=
      ["MOVE".toList, "place 1,1,north".toList, "MOVE".toList, "jump".toList, "REPORT".toList,
        "PLACE 3,1,WEST".toList, "LEFT".toList, "PLACE 1,1,WEST".toList, "move".toList]
    let numbers : Finset Nat := {1, 3, 4, 5, 6, 8}
    IdleAt numbers .unplaced (board.runFrom .unplaced lines) ∧
      board.runFrom .unplaced ["place 1,1,north".toList, "LEFT".toList, "move".toList] =
        renumberedFrom 1
          ((board.runFrom .unplaced lines).filter fun step => step.number ∉ numbers) := by
  intro board lines numbers
  have hIdle : IdleAt numbers .unplaced (board.runFrom .unplaced lines) := by decide
  obtain ⟨-, hTexts, -⟩ := idle_lines_left_out board .unplaced numbers
  exact ⟨hIdle, hTexts lines hIdle⟩

end Board

end Tabletop
