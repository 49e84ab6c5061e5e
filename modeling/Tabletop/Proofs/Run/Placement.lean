import Tabletop.Proofs.Run.Parts

/-!
# Placements and reports of a run

The robot is placed after a step exactly if one of the lines so far was a placement on a cell of the
board, or it was placed at the start (`isPlaced_robotAfter`). A step has a report exactly if a
report was read at it and the robot before it is placed; the robot is then what it was, and the
report is its label (`report_eq_of_transition`, `robot_eq_of_reported`).

So what a robot says on a run is what it shows at those lines that ask for a report behind the first
placement on the board, one entry for each of them (`reportsOf_of_unplaced`). Whatever else stands
between these lines, refused placements, lines that are no command, commands that come too early,
adds no entry and takes none away.
-/

namespace Tabletop

namespace Board

variable {Line : Type}

/-- Whether the command is a placement on a cell of the board. -/
def lands (board : Board) : Option Command → Bool
  | some (.place pose) => board.Holds pose.cell
  | _ => false

/-- Of some items, each with its command, those that ask for a report behind the first placement on
the board. -/
def asked {Item : Type} (board : Board) (command : Item → Option Command) (items : List Item) :
    List Item :=
  (items.dropWhile fun item => !board.lands (command item)).filter fun item =>
    command item = some .report

theorem lands_iff {board : Board} {command : Option Command} :
    board.lands command = true ↔
      ∃ pose, command = some (.place pose) ∧ board.Holds pose.cell := by
  constructor
  · intro h
    unfold lands at h
    split at h
    · exact ⟨_, rfl, of_decide_eq_true h⟩
    · cases h
  · rintro ⟨pose, rfl, hOn⟩
    exact decide_eq_true hOn

theorem eq_unplaced {robot : Robot} (h : robot.isPlaced = false) : robot = .unplaced := by
  cases robot with
  | unplaced => rfl
  | placed pose => cases h

/-! ## One step -/

theorem isPlaced_of_transition {board : Board} {before : Robot} {command : Option Command}
    {outcome : Outcome} (h : board.Transition before command outcome) :
    outcome.robot.isPlaced = (before.isPlaced || board.lands command) := by
  cases h with
  | placed hOn => simp [Robot.isPlaced, Robot.pose?, lands, hOn]
  | refused hOff => simp [lands, hOff]
  | moved hOn => rfl
  | blocked hOff => rfl
  | turnedLeft => rfl
  | turnedRight => rfl
  | reported => rfl
  | @unready command hOther =>
    cases command with
    | place pose => exact absurd rfl (hOther pose)
    | move => rfl
    | left => rfl
    | right => rfl
    | report => rfl
  | skipped => simp [lands]

theorem report_eq_of_transition {board : Board} {before : Robot} {command : Option Command}
    {outcome : Outcome} (h : board.Transition before command outcome) :
    outcome.report =
      if command = some .report ∧ before.isPlaced = true then some before.label else none := by
  cases h with
  | unready hOther => exact (if_neg fun hAsked => Bool.noConfusion hAsked.2).symm
  | _ => rfl

theorem robot_eq_of_reported {board : Board} {before : Robot} {command : Option Command}
    {outcome : Outcome} (h : board.Transition before command outcome) {report : Text}
    (hReport : outcome.report = some report) : outcome.robot = before := by
  cases h <;> cases hReport
  rfl

/-! ## Placements -/

theorem isPlaced_robotAfter (board : Board) (read? : Line → Option Command) (robot : Robot)
    (lines : List Line) :
    (board.robotAfter read? robot lines).isPlaced =
      (robot.isPlaced || lines.any fun line => board.lands (read? line)) := by
  induction lines generalizing robot with
  | nil => simp
  | cons line lines ih =>
    have hStep := isPlaced_of_transition (transition_executeOrSkip board robot (read? line))
    rw [robotAfter_cons, ih, hStep, List.any_cons, Bool.or_assoc]

theorem pairwise_isPlaced (board : Board) (read? : Line → Option Command) (number : Nat)
    (robot : Robot) (lines : List Line) :
    List.Pairwise (fun earlier later => earlier.isPlaced = true → later.isPlaced = true)
      (robotsOf robot (board.stepsFrom read? number robot lines)) := by
  have hRobots : robotsOf robot (board.stepsFrom read? number robot lines) =
      robot :: (board.outcomes robot (lines.map read?)).map Outcome.robot := by
    rw [robotsOf, ← map_outcome_stepsFrom board read? number, List.map_map]
    rfl
  rw [hRobots]
  refine pairwise_outcomes (fun _ _ _ h g hFirst => g (h hFirst)) ?_ robot _
  intro before command outcome h hPlaced
  rw [isPlaced_of_transition h, hPlaced, Bool.true_or]

/-! ## Reports -/

theorem reportsOf_stepsFrom_cons (board : Board) (read? : Line → Option Command) (number : Nat)
    (robot : Robot) (line : Line) (lines : List Line) :
    reportsOf (board.stepsFrom read? number robot (line :: lines)) =
      (if read? line = some .report ∧ robot.isPlaced = true then [robot.label] else []) ++
        reportsOf (board.stepsFrom read? (number + 1)
          (board.executeOrSkip robot (read? line)).robot lines) := by
  have hStep := transition_executeOrSkip board robot (read? line)
  rw [stepsFrom_cons, reportsOf_cons, Step.report, report_eq_of_transition hStep]
  split <;> rfl

theorem reportsOf_of_isPlaced (board : Board) (read? : Line → Option Command) (number : Nat)
    {robot : Robot} (hPlaced : robot.isPlaced = true) (lines : List Line) :
    reportsOf (board.stepsFrom read? number robot lines) =
      ((board.stepsFrom read? number robot lines).filter fun step =>
        step.command = some .report).map fun step => step.robot.label := by
  induction lines generalizing number robot with
  | nil => rfl
  | cons line lines ih =>
    have hStep := transition_executeOrSkip board robot (read? line)
    have hAfter : (board.executeOrSkip robot (read? line)).robot.isPlaced = true := by
      rw [isPlaced_of_transition hStep, hPlaced, Bool.true_or]
    rw [reportsOf_stepsFrom_cons, ih _ hAfter, stepsFrom_cons]
    by_cases hAsked : read? line = some .report
    · have hSaid : (board.executeOrSkip robot (read? line)).report = some robot.label := by
        rw [report_eq_of_transition hStep, if_pos ⟨hAsked, hPlaced⟩]
      rw [if_pos ⟨hAsked, hPlaced⟩, List.filter_cons_of_pos (by simpa using hAsked),
        List.map_cons, Step.robot, robot_eq_of_reported hStep hSaid]
      rfl
    · rw [if_neg fun h => hAsked h.1, List.filter_cons_of_neg (by simpa using hAsked)]
      rfl

/-- On a run from a robot that has not been placed, the robot says what it shows at those steps that
ask for a report behind the first placement on the board. -/
theorem reportsOf_of_unplaced (board : Board) (read? : Line → Option Command) (number : Nat)
    (lines : List Line) :
    reportsOf (board.stepsFrom read? number .unplaced lines) =
      (board.asked Step.command (board.stepsFrom read? number .unplaced lines)).map
        fun step => step.robot.label := by
  induction lines generalizing number with
  | nil => rfl
  | cons line lines ih =>
    have hPlaced := isPlaced_of_transition (transition_executeOrSkip board .unplaced (read? line))
    rw [reportsOf_stepsFrom_cons, if_neg fun h => Bool.noConfusion h.2, List.nil_append,
      stepsFrom_cons]
    unfold asked at ih ⊢
    cases hLands : board.lands (read? line) with
    | true =>
      rw [hLands, Bool.or_true] at hPlaced
      obtain ⟨pose, hPlace, -⟩ := lands_iff.mp hLands
      rw [reportsOf_of_isPlaced board read? (number + 1) hPlaced,
        List.dropWhile_cons_of_neg (by simp [hLands]),
        List.filter_cons_of_neg (by simp [hPlace])]
    | false =>
      rw [hLands] at hPlaced
      have hSame : (board.executeOrSkip .unplaced (read? line)).robot = .unplaced :=
        eq_unplaced hPlaced
      rw [hSame, ih, List.dropWhile_cons_of_pos (by simp [hLands])]

theorem map_line_filter (board : Board) (read? : Line → Option Command) (number : Nat)
    (robot : Robot) (lines : List Line) (p : Option Command → Bool) :
    ((board.stepsFrom read? number robot lines).filter fun step => p step.command).map Step.line =
      lines.filter fun line => p (read? line) := by
  induction lines generalizing number robot with
  | nil => rfl
  | cons line lines ih =>
    rw [stepsFrom_cons, List.filter_cons, List.filter_cons]
    split
    · rw [List.map_cons, ih]
    · exact ih _ _

/-- The steps that are asked for a report are those at the lines that ask for one. -/
theorem map_line_asked (board : Board) (read? : Line → Option Command) (number : Nat)
    (robot : Robot) (lines : List Line) :
    (board.asked Step.command (board.stepsFrom read? number robot lines)).map Step.line =
      board.asked read? lines := by
  induction lines generalizing number robot with
  | nil => rfl
  | cons line lines ih =>
    unfold asked at ih ⊢
    rw [stepsFrom_cons, List.dropWhile_cons, List.dropWhile_cons]
    split
    · exact ih _ _
    · rw [← stepsFrom_cons]
      exact map_line_filter board read? number robot (line :: lines) fun command =>
        command = some .report

/-- On a run over texts from a robot that has not been placed, the robot is placed from the first
placement on the board on and no earlier, and reports exactly where it stands when it is asked to
and has been placed. -/
theorem placements_and_reports (board : Board) (lines : List Text) :
    (∀ k step, (board.run lines)[k]? = some step →
      (step.robot.isPlaced = true ↔ ∃ line ∈ lines.take (k + 1), ∃ pose,
        Command.ofLine? line = some (.place pose) ∧ board.Holds pose.cell) ∧
      ∃ line before, lines[k]? = some line ∧
        (robotsOf .unplaced (board.run lines))[k]? = some before ∧
        (step.report.isSome = true ↔
          Command.ofLine? line = some .report ∧ before.isPlaced = true) ∧
        ∀ report, step.report = some report → report = before.label ∧ step.robot = before) ∧
    List.Pairwise (fun earlier later => earlier.isPlaced = true → later.isPlaced = true)
      (robotsOf .unplaced (board.run lines)) ∧
    board.reports lines =
      (board.asked Step.command (board.run lines)).map (fun step => step.robot.label) ∧
    (board.asked Step.command (board.run lines)).map Step.line =
      board.asked Command.ofLine? lines := by
  refine ⟨fun k step hStep => ⟨?_, ?_⟩, pairwise_isPlaced board _ 1 _ lines,
    reportsOf_of_unplaced board _ 1 lines, map_line_asked board _ 1 _ lines⟩
  · rw [robot_of_getElem? hStep, isPlaced_robotAfter]
    simp only [Robot.isPlaced, Robot.pose?, Option.isSome_none, Bool.false_or, List.any_eq_true,
      lands_iff]
  · rw [run, runFrom, getElem?_stepsFrom] at hStep
    obtain ⟨line, hLine, rfl⟩ := Option.map_eq_some_iff.mp hStep
    obtain ⟨hLength, -⟩ := List.getElem?_eq_some_iff.mp hLine
    have hBefore := getElem?_robotsOf board Command.ofLine? 1 .unplaced hLength.le
    have hTransition := transition_executeOrSkip board
      (board.robotAfter Command.ofLine? .unplaced (lines.take k)) (Command.ofLine? line)
    have hReport := report_eq_of_transition hTransition
    refine ⟨line, _, hLine, hBefore, ?_, fun report hSaid => ⟨?_, ?_⟩⟩
    · rw [Step.report, hReport, Option.isSome_ite]
    · rw [Step.report, hReport] at hSaid
      exact (Option.some.inj (Option.ite_none_right_eq_some.mp hSaid).2).symm
    · exact robot_eq_of_reported hTransition hSaid

theorem placements_and_reports_with_refusals :
    let board := Board.mk 3 2
    let lines : List Text :=
      ["REPORT".toList, "PLACE 9,9,NORTH".toList, "place 1,1,east".toList, "jump".toList,
        "REPORT".toList, "MOVE".toList, "PLACE 7,7,WEST".toList, "REPORT".toList]
    let step : Step Text :=
      ⟨5, "REPORT".toList, some .report, ⟨.placed ⟨⟨1, 1⟩, .east⟩, some "1,1,EAST".toList⟩⟩
    (board.run lines)[4]? = some step ∧
      (∃ line ∈ lines.take 5, ∃ pose,
        Command.ofLine? line = some (.place pose) ∧ board.Holds pose.cell) ∧
      (∃ before, (robotsOf .unplaced (board.run lines))[4]? = some before ∧
        "1,1,EAST".toList = before.label ∧ step.robot = before) ∧
      board.reports lines = ["1,1,EAST".toList, "2,1,EAST".toList] := by
  intro board lines step
  have hStep : (board.run lines)[4]? = some step := rfl
  obtain ⟨hSteps, -, hReports, -⟩ := placements_and_reports board lines
  obtain ⟨hPlaced, line, before, -, hBefore, -, hReport⟩ := hSteps 4 step hStep
  exact ⟨hStep, hPlaced.mp rfl, ⟨before, hBefore, hReport _ rfl⟩, hReports.trans rfl⟩

end Board

end Tabletop
