import Mathlib.Data.Set.Operations
import Tabletop.Proofs.Command.Label
import Tabletop.Proofs.Run.OnBoard
import Tabletop.Proofs.Run.Parts

/-!
# Runs repeated from what they show

A run shows what was read at every step and where the robot stands after it, and either is enough to
repeat it. The labels of all that was read, taken as lines, give the same run again
(`labels_replay_run`). The report of a robot, behind the word of a placement, puts any robot where
the reported one stood, so that a run can be resumed from there (`run_resumes_from_report`). A
report tells the pose apart from every other that runs come to.

Both rest on labels being read as their commands. For a placement this needs coordinates of at most
4300 digits; lines cannot hold longer ones, and a robot on a board whose sides have no more digits
never comes to longer ones.
-/

namespace Tabletop

namespace Board

variable {Line : Type}

/-- The sides fit into the numerals that can be read. -/
def Fits (board : Board) : Prop := Numeral.Fits board.width ∧ Numeral.Fits board.height

/-- The pose is that of the robot after some step of some run. -/
def Reaches (board : Board) (pose : Pose) : Prop :=
  ∃ lines : List Text, ∃ step ∈ board.run lines, step.robot = .placed pose

/-- The labels of what was read at the steps of a run. -/
def labelsOf (steps : List (Step Line)) : List Text :=
  steps.map fun step => Command.label? step.command

/-! ## Labels as lines -/

theorem labelsOf_stepsFrom (board : Board) (read? : Line → Option Command) (number : Nat)
    (robot : Robot) (lines : List Line) :
    labelsOf (board.stepsFrom read? number robot lines) =
      lines.map fun line => Command.label? (read? line) := by
  induction lines generalizing number robot with
  | nil => rfl
  | cons line lines ih =>
    have hRest := ih (number + 1) (board.executeOrSkip robot (read? line)).robot
    unfold labelsOf at hRest ⊢
    rw [stepsFrom_cons, List.map_cons, List.map_cons, hRest]

/-- The run over the labels of a run repeats it. -/
theorem forall₂_labels (board : Board) (start : Robot) {read? : Line → Option Command}
    (hRead : ∀ line, Command.ofLine? (Command.label? (read? line)) = read? line)
    (lines : List Line) :
    List.Forall₂ Step.Agrees
      (board.runFrom start (labelsOf (board.stepsFrom read? 1 start lines)))
      (board.stepsFrom read? 1 start lines) := by
  have hLines : List.Forall₂ (fun label line => Command.ofLine? label = read? line)
      (lines.map fun line => Command.label? (read? line)) lines :=
    List.forall₂_map_left_iff.mpr (List.forall₂_same.mpr fun line _ => hRead line)
  rw [labelsOf_stepsFrom]
  exact (forall₂_stepsFrom board (fun _ _ h => h) 1 1 start hLines).imp fun _ _ h => h.2

/-- A command is read from its label, and the label of a line that is no command is none either. So
the labels of a run, whatever lines it went through and wherever it started, give that run again. -/
theorem labels_replay_run (board : Board) (start : Robot) :
    (∀ command : Command, command.Fits →
      Command.ofLine? (Command.label? (some command)) = some command) ∧
    Command.ofLine? (Command.label? none) = none ∧
    (∀ lines : List Text, List.Forall₂ Step.Agrees
      (board.runFrom start (labelsOf (board.runFrom start lines))) (board.runFrom start lines)) ∧
    ∀ lines : List (Option Text), List.Forall₂ Step.Agrees
      (board.runFrom start (labelsOf (board.runSparse start lines)))
      (board.runSparse start lines) := by
  refine ⟨fun command h => Command.ofLine?_label h, by decide, fun lines => ?_, fun lines => ?_⟩
  · exact forall₂_labels board start Command.ofLine?_label?_ofLine? lines
  · refine forall₂_labels board start (fun line => ?_) lines
    cases line with
    | none => decide
    | some line => exact Command.ofLine?_label?_ofLine? line

theorem labels_replay_run_with_refusals :
    let board := Board.mk 3 5
    let start : Robot := .placed ⟨⟨-12, 7⟩, .west⟩
    let lines : List Text :=
      ["place +01, 2 ,north".toList, "jump".toList, "PLACE -12,7,WEST".toList, "report".toList]
    let labels : List Text :=
      ["PLACE 1,2,NORTH".toList, "ignored".toList, "PLACE -12,7,WEST".toList, "REPORT".toList]
    Command.Fits (.place ⟨⟨-12, 7⟩, .west⟩) ∧
      Command.ofLine? "PLACE -12,7,WEST".toList = some (.place ⟨⟨-12, 7⟩, .west⟩) ∧
      List.Forall₂ Step.Agrees (board.runFrom start labels) (board.runFrom start lines) := by
  intro board start lines labels
  have hFits : Command.Fits (.place ⟨⟨-12, 7⟩, .west⟩) :=
    ⟨Numeral.fits_iff.mpr (by decide), Numeral.fits_iff.mpr (by decide)⟩
  have hLabels : labelsOf (board.runFrom start lines) = labels := rfl
  obtain ⟨hRead, -, hReplay, -⟩ := labels_replay_run board start
  exact ⟨hFits, hRead _ hFits, hLabels ▸ hReplay lines⟩

/-! ## Reports as placements -/

theorem fits_of_holds {board : Board} (hBoard : board.Fits) {cell : Cell} (h : board.Holds cell) :
    cell.Fits := by
  obtain ⟨⟨hLeft, hRight⟩, hBottom, hTop⟩ := h
  exact ⟨hBoard.1.of_natAbs_le (by omega), hBoard.2.of_natAbs_le (by omega)⟩

theorem holds_of_mem_stepsFrom {board : Board} {read? : Line → Option Command} {number : Nat}
    {lines : List Line} {step : Step Line}
    (h : step ∈ board.stepsFrom read? number .unplaced lines) {pose : Pose}
    (hPose : step.robot = .placed pose) : board.Holds pose.cell := by
  have hMem : step.outcome ∈ board.outcomes .unplaced (lines.map read?) := by
    rw [← map_outcome_stepsFrom board read? number]
    exact List.mem_map_of_mem h
  have hRobot : step.outcome.robot = .placed pose := hPose
  exact (keeps_outcomes board .unplaced _).placed rfl _ hMem pose.cell (by rw [hRobot]; rfl)

theorem fits_of_reaches {board : Board} (hBoard : board.Fits) {pose : Pose}
    (h : board.Reaches pose) : pose.cell.Fits := by
  obtain ⟨lines, step, hStep, hPose⟩ := h
  exact fits_of_holds hBoard (holds_of_mem_stepsFrom hStep hPose)

/-- Reports tell poses apart, as far as placements of them can be read. -/
theorem report_injOn : Set.InjOn Pose.report {pose | pose.cell.Fits} := by
  intro pose hPose other hOther hReport
  have hRead := Command.ofLine?_report hPose
  rw [hReport, Command.ofLine?_report hOther] at hRead
  cases hRead
  rfl

/-- Wherever a robot is placed on a run, its report is one that a placement can be read from. From
any robot, that placement and the lines that are left lead through the same poses, with the same
reports, as the rest of the run. -/
theorem run_resumes_from_report {board : Board} (hBoard : board.Fits) (lines : List Text) :
    (∀ k step pose, (board.run lines)[k]? = some step → step.robot = .placed pose →
      (board.execute step.robot .report).report = some step.robot.label ∧
      Command.ofLine? ("PLACE ".toList ++ step.robot.label) = some (.place pose) ∧
      ∀ start : Robot, ∃ first later,
        board.runFrom start (("PLACE ".toList ++ step.robot.label) :: lines.drop (k + 1)) =
          first :: later ∧
        first.robot = step.robot ∧
        List.Forall₂ (fun resumed original =>
            resumed.line = original.line ∧ resumed.Agrees original)
          later ((board.run lines).drop (k + 1))) ∧
    Set.InjOn Pose.report {pose | ∃ other : Board, other.Fits ∧ other.Reaches pose} := by
  refine ⟨fun k step pose hStep hPose => ?_, report_injOn.mono ?_⟩
  · have hOn : board.Holds pose.cell := holds_of_mem_stepsFrom (List.mem_of_getElem? hStep) hPose
    have hRead : Command.ofLine? ("PLACE ".toList ++ step.robot.label) = some (.place pose) := by
      rw [hPose, Robot.label]
      exact Command.ofLine?_report (fits_of_holds hBoard hOn)
    refine ⟨by rw [hPose]; rfl, hRead, fun start => ⟨_, _, rfl, ?_, ?_⟩⟩
    · rw [hRead, executeOrSkip_place hOn, hPose]
      rfl
    · have hAfter := robot_of_getElem? hStep
      rw [hRead, executeOrSkip_place hOn, run, runFrom, drop_stepsFrom, ← hAfter, hPose]
      exact forall₂_stepsFrom board (fun line line' h => by rw [h]) _ _ _
        (List.forall₂_same.mpr fun _ _ => rfl)
  · rintro pose ⟨other, hOther, hReaches⟩
    exact fits_of_reaches hOther hReaches

theorem run_resumes_behind_move :
    let board := Board.mk 5 5
    let lines : List Text :=
      ["PLACE 1,2,EAST".toList, "MOVE".toList, "jump".toList, "LEFT".toList, "REPORT".toList]
    let start : Robot := .placed ⟨⟨-7, 9⟩, .south⟩
    let pose : Pose := ⟨⟨2, 2⟩, .east⟩
    board.Fits ∧
      (board.run lines)[1]? = some ⟨2, "MOVE".toList, some .move, ⟨.placed pose, none⟩⟩ ∧
      Command.ofLine? "PLACE 2,2,EAST".toList = some (.place pose) ∧
      ∃ first later,
        board.runFrom start ["PLACE 2,2,EAST".toList, "jump".toList, "LEFT".toList,
          "REPORT".toList] = first :: later ∧
        first.robot = .placed pose ∧
        List.Forall₂ (fun resumed original =>
            resumed.line = original.line ∧ resumed.Agrees original)
          later ((board.run lines).drop 2) := by
  intro board lines start pose
  have hBoard : board.Fits := ⟨Numeral.fits_iff.mpr (by decide), Numeral.fits_iff.mpr (by decide)⟩
  have hStep : (board.run lines)[1]? =
      some ⟨2, "MOVE".toList, some .move, ⟨.placed pose, none⟩⟩ := rfl
  obtain ⟨-, hRead, hResumed⟩ := (run_resumes_from_report hBoard lines).1 1 _ pose hStep rfl
  exact ⟨hBoard, hStep, hRead, hResumed start⟩

end Board

end Tabletop
