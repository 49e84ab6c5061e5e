import Tabletop.Proofs.Invocation.Boundary
import Tabletop.Proofs.Log.Entry
import Tabletop.Proofs.Run.Placement
import Tabletop.Proofs.Text.Cut
import Tabletop.Proofs.Trace.Plain

/-!
# Diagnostics line by line

A verbose run that traces writes its log and its trace to the standard error. On a console without
markup no line of the run can forge a line there, or hide one: the log has one line for every step
and one for the run, each of which can be read as the entry of one event only, and the trace has its
head, one line for every step and its foot (`Invocation.no_line_forges_diagnostics`).

Nothing that was read as a line holds a line feed, which is all it takes for a row of the trace to
stay one line. A line of the log would stay one line even so, since it has such a text quoted.
-/

namespace Tabletop

/-! ## Lines and reports without line feeds -/

namespace Source

theorem exists_lines_of_readInput {input : Input} {lines : List Text}
    (h : readInput input = .ok lines) : ∃ t, lines = Text.lines t := by
  cases input with
  | bytes bytes =>
    rw [readInput] at h
    split at h
    · rename_i t _
      cases h
      exact ⟨t.lineFeeds, rfl⟩
    · cases h
  | text t =>
    cases h
    exact ⟨t, rfl⟩
  | unreadable detail => cases h
  | crashing crash => cases h
  | interrupted => cases h

theorem exists_lines_of_readFile {openFile : Path → Except OpenFailure ByteArray} {path : Path}
    {lines : List Text} (h : readFile openFile path = .ok lines) : ∃ t, lines = Text.lines t := by
  unfold readFile at h
  split at h
  · cases h
  split at h
  · cases h
  split at h
  · rename_i t _
    cases h
    exact ⟨t.lineFeeds, rfl⟩
  · cases h

/-- No line feed stands in a line that was read, wherever it came from. -/
theorem feed_notMem_of_read {openFile : Path → Except OpenFailure ByteArray} {input : Input}
    {source : Text} {lines : List Text} (h : read openFile input source = .ok lines) :
    ∀ line ∈ lines, '\n' ∉ line := by
  have hLines : ∃ t, lines = Text.lines t := by
    unfold read at h
    split at h
    · exact exists_lines_of_readInput h
    · exact exists_lines_of_readFile h
  obtain ⟨t, rfl⟩ := hLines
  exact fun line hLine => ((Text.cutInto_lines t).unbroken line hLine).2

end Source

namespace Board

theorem feed_notMem_reports (board : Board) (lines : List Text) :
    ∀ report ∈ board.reports lines, '\n' ∉ report := by
  intro report hReport
  obtain ⟨step, hStep, hSaid⟩ := List.mem_filterMap.mp hReport
  obtain ⟨before, hStepped⟩ := exists_transition_of_mem_stepsFrom hStep
  have hFree := hStepped.isPrintedAscii_report.controlFree
  have hOutcome : step.outcome.report = some report := hSaid
  rw [hOutcome] at hFree
  exact hFree.notMem (by decide)

/-- The steps that accept no command are those at the lines that stand for none. -/
theorem countP_not_accepted (board : Board) (lines : List Text) :
    (board.run lines).countP (!·.accepted) =
      lines.countP fun line => Command.ofLine? line = none := by
  have hSame : (fun line => decide (Command.ofLine? line = none)) =
      fun line => !(Command.ofLine? line).isSome := by
    funext line
    cases Command.ofLine? line <;> rfl
  rw [hSame, List.countP_eq_length_filter, List.countP_eq_length_filter,
    ← map_line_filter board Command.ofLine? 1 .unplaced lines fun command => !command.isSome,
    List.length_map]
  rfl

end Board

theorem Trouble.exitCode_ne_success (trouble : Trouble) : trouble.exitCode ≠ .success := by
  cases trouble <;> simp [exitCode]

namespace Invocation

/-! ## What is written -/

/-- What shows a step at a line with this number: an entry in the log and a row in the trace. -/
structure ShowsStep (stamp : Text) (number : Nat) (line : Text) (step : Step Text)
    (entry row : Text) : Prop where
  /-- A line that stands for no command is logged as such. -/
  ignored : Command.ofLine? line = none →
    Log.Tells stamp entry "command.ignored".toList
      [("line".toList, Log.ofText line), ("line_number".toList, Log.ofNat number)]
  /-- Any other is logged with the kind of its command, and whether the robot is placed then. -/
  applied : ∀ command, Command.ofLine? line = some command →
    Log.Tells stamp entry "command.applied".toList
      [("command".toList, Log.kind command), ("line_number".toList, Log.ofNat number),
       ("placed".toList, Log.ofBool step.robot.isPlaced)]
  row_eq : row = Trace.plainRow
    { number := Numeral.write number
      input := line.strip
      command := Command.label? (Command.ofLine? line)
      robot := step.robot.label
      output := step.report.getD [] }

/-- What shows a run over these lines: the lines of the log and those of the trace. -/
structure ShowsRun (stamp : Text) (board : Board) (lines logged traced : List Text) : Prop where
  length_logged : logged.length = lines.length + 1
  length_traced : traced.length = lines.length + 6
  steps : ∀ i line, lines[i]? = some line → ∃ step ∈ (board.run lines)[i]?,
    ∃ entry ∈ logged[i]?, ∃ row ∈ traced[i + 5]?, ShowsStep stamp (i + 1) line step entry row
  /-- The last line of the log counts the lines, those that stand for no command, and the
  reports. -/
  complete : ∃ entry ∈ logged[lines.length]?, Log.Tells stamp entry "run.complete".toList
    [("ignored".toList, Log.ofNat (lines.countP fun line => Command.ofLine? line = none)),
     ("lines".toList, Log.ofNat lines.length),
     ("reports".toList, Log.ofNat (board.reports lines).length)]
  head : traced.take 5 = Trace.plainHead
  foot : traced[lines.length + 5]? = some []

/-- The lines of the log of a run. -/
def logLines (stamp : Text) (steps : List (Step Text)) : List Text :=
  steps.map (Log.ofStep stamp) ++
    [Log.ofRun stamp steps.length (steps.countP (!·.accepted)) (Board.reportsOf steps).length]

theorem length_logLines (stamp : Text) (steps : List (Step Text)) :
    (logLines stamp steps).length = steps.length + 1 := by
  rw [logLines, List.length_append, List.length_map, List.length_singleton]

theorem getElem?_logLines (stamp : Text) {steps : List (Step Text)} {i : Nat} {step : Step Text}
    (h : steps[i]? = some step) : (logLines stamp steps)[i]? = some (Log.ofStep stamp step) := by
  obtain ⟨hLength, -⟩ := List.getElem?_eq_some_iff.mp h
  rw [logLines, List.getElem?_append_left (by simpa using hLength), List.getElem?_map, h,
    Option.map_some]

theorem getElem?_logLines_length (stamp : Text) (steps : List (Step Text)) :
    (logLines stamp steps)[steps.length]? = some (Log.ofRun stamp steps.length
      (steps.countP (!·.accepted)) (Board.reportsOf steps).length) := by
  have hEntries : (steps.map (Log.ofStep stamp)).length = steps.length := List.length_map _
  rw [logLines, ← hEntries]
  exact List.getElem?_concat_length

theorem errors_finish {settings : Settings} {around : Surroundings}
    (hVerbose : settings.verbose = true) (hTrace : settings.trace = true)
    (hPlain : around.styled = false) (steps : List (Step Text)) :
    (finish settings around steps).errors =
      Text.unlines (logLines around.stamp steps ++ Trace.plainLines (steps.map Trace.row)) := by
  rw [Text.unlines_append, logLines, ← Session.logged_ofSteps_verbose]
  simp only [finish, hTrace, hVerbose, hPlain, traceOf, if_true, Bool.false_eq_true, if_false]
  rfl

theorem feed_notMem_logLines {stamp : Text} (hStamp : '\n' ∉ stamp) (steps : List (Step Text)) :
    ∀ line ∈ logLines stamp steps, '\n' ∉ line := by
  rw [logLines, List.forall_mem_append, List.forall_mem_map, List.forall_mem_singleton]
  exact ⟨fun step _ => Log.feed_notMem_ofStep hStamp step, Log.feed_notMem_ofRun hStamp _ _ _⟩

/-- A line of the run is shown by the entry and by the row of its step. -/
theorem exists_showsStep (stamp : Text) (board : Board) {lines : List Text} {i : Nat} {line : Text}
    (hLine : lines[i]? = some line) : ∃ step, (board.run lines)[i]? = some step ∧
      ShowsStep stamp (i + 1) line step (Log.ofStep stamp step)
        (Trace.plainRow (Trace.row step)) := by
  have hStep := board.getElem?_stepsFrom Command.ofLine? 1 .unplaced lines i
  rw [hLine, Option.map_some, Nat.add_comm 1 i] at hStep
  exact ⟨_, hStep, fun hNone => Log.tells_ofStep_none stamp hNone,
    fun command hSome => Log.tells_ofStep_some stamp hSome, rfl⟩

theorem showsRun (stamp : Text) (board : Board) (lines : List Text) :
    ShowsRun stamp board lines (logLines stamp (board.run lines))
      (Trace.plainLines ((board.run lines).map Trace.row)) := by
  have hSteps : (board.run lines).length = lines.length := board.length_stepsFrom _ 1 _ lines
  have hRows : ((board.run lines).map Trace.row).length = lines.length := by
    rw [List.length_map, hSteps]
  refine ⟨?_, ?_, fun i line hLine => ?_, ?_, Trace.take_plainLines _, ?_⟩
  · rw [length_logLines, hSteps]
  · rw [Trace.length_plainLines, hRows]
  · obtain ⟨step, hStep, hShows⟩ := exists_showsStep stamp board hLine
    have hRow : ((board.run lines).map Trace.row)[i]? = some (Trace.row step) := by
      rw [List.getElem?_map, hStep, Option.map_some]
    exact ⟨step, hStep, _, getElem?_logLines stamp hStep, _, Trace.getElem?_plainLines hRow,
      hShows⟩
  · have hLast := getElem?_logLines_length stamp (board.run lines)
    rw [hSteps, board.countP_not_accepted] at hLast
    exact ⟨_, hLast, Log.tells_ofRun stamp _ _ _⟩
  · rw [← hRows]
    exact Trace.getElem?_plainLines_length _

/-! ## Runs that succeed -/

/-- An invocation that asks for a run ends with success only if it has a board and lines. -/
theorem exists_lines_of_success {arguments : List Text} {around : Surroundings}
    {settings : Settings} (hRun : Options.read arguments = .ok (.run settings))
    (hEnding : (invoke arguments around).ending = .exit .success) :
    ∃ board lines, Board.ofLiterals? settings.width settings.height = .ok board ∧
      Source.read around.openFile around.input settings.source = .ok lines := by
  have hNoTrouble : ∀ trouble, ¬ Meets arguments around trouble := by
    intro trouble hMeets
    rw [invoke_of_meets hMeets] at hEnding
    exact trouble.exitCode_ne_success (exitCode_of_endWith hEnding).symm
  cases hBoard : Board.ofLiterals? settings.width settings.height with
  | error sides => exact absurd (.board hRun hBoard) (hNoTrouble _)
  | ok board =>
    cases hLines : Source.read around.openFile around.input settings.source with
    | error failure => exact absurd (.source hRun hBoard hLines) (hNoTrouble _)
    | ok lines => exact ⟨board, lines, rfl, rfl⟩

end Invocation

end Tabletop
