import Tabletop.Invocation
import Tabletop.Proofs.Console.Escape
import Tabletop.Proofs.Run.Session

/-!
# An invocation prints the reports of its run

Once its lines have been read, an invocation cannot fail: the lines are escaped before they are
shown, so that a trace can be drawn of whatever stands in them (`exists_traceOf`). It ends with
success and has written the reports of the run to the standard output, whatever it was asked to log
or to trace (`run_prints_reports`).
-/

namespace Tabletop

/-- A console that understands markup, with no files and with the given text to be read. -/
def Surroundings.reading (input : Text) : Surroundings where
  openFile := fun _ => .error .missing
  input := .text input
  styled := true
  columns := 80
  stamp := []

namespace Invocation

/-! ## The trace -/

theorem exists_boxed (steps : List (Step Text)) : ∃ trace, Trace.boxed steps = .ok trace := by
  have hCells : ∀ rows : List Trace.Row, ∃ cells,
      rows.mapM (fun row => (Trace.shownInput row).map (Trace.rowCells row)) = .ok cells := by
    intro rows
    induction rows with
    | nil => exact ⟨[], rfl⟩
    | cons row rows ih =>
      obtain ⟨shown, hShown⟩ := Markup.exists_render_escape row.input
      obtain ⟨cells, hCells⟩ := ih
      refine ⟨Trace.rowCells row shown :: cells, ?_⟩
      rw [List.mapM_cons, hCells, Trace.shownInput, hShown]
      rfl
  obtain ⟨cells, hCells⟩ := hCells (steps.map Trace.row)
  unfold Trace.boxed
  rw [hCells]
  exact ⟨_, rfl⟩

/-- A trace can always be drawn. -/
theorem exists_traceOf (styled : Bool) (steps : List (Step Text)) :
    ∃ trace, traceOf styled steps = .ok trace := by
  cases styled with
  | true => exact exists_boxed steps
  | false => exact ⟨Trace.plain steps, rfl⟩

/-! ## The whole invocation -/

theorem finish_eq (settings : Settings) (around : Surroundings) (steps : List (Step Text)) :
    ∃ errors, finish settings around steps =
        ⟨.exit .success, Text.unlines (Board.reportsOf steps), errors⟩ ∧
      (settings.trace = false → settings.verbose = false → errors = []) := by
  obtain ⟨trace, hTrace⟩ := exists_traceOf around.styled steps
  unfold finish
  dsimp only
  rw [Session.output_ofSteps]
  split
  · rename_i hAsked
    rw [hTrace]
    refine ⟨_, rfl, fun hNone => ?_⟩
    rw [hAsked] at hNone
    cases hNone
  · refine ⟨_, rfl, fun _ hQuiet => ?_⟩
    rw [hQuiet]
    exact Session.logged_ofSteps_quiet around.stamp steps

theorem invoke_of_read {arguments : List Text} {around : Surroundings} {settings : Settings}
    {board : Board} {lines : List Text} (hRun : Options.read arguments = .ok (.run settings))
    (hWidth : settings.width = .whole board.width)
    (hHeight : settings.height = .whole board.height)
    (hLines : Source.read around.openFile around.input settings.source = .ok lines) :
    invoke arguments around = finish settings around (board.run lines) := by
  have hBoard : Board.ofLiterals? settings.width settings.height = .ok board :=
    Board.ofLiterals?_eq_ok_iff.mpr ⟨hWidth, hHeight⟩
  simp only [invoke, hRun, run, hBoard, hLines]

/-- Nothing fails any more once the lines have been read. -/
theorem ending_of_read {arguments : List Text} {around : Surroundings} {settings : Settings}
    {board : Board} {lines : List Text} (hRun : Options.read arguments = .ok (.run settings))
    (hBoard : Board.ofLiterals? settings.width settings.height = .ok board)
    (hLines : Source.read around.openFile around.input settings.source = .ok lines) :
    (invoke arguments around).ending = .exit .success := by
  obtain ⟨hWidth, hHeight⟩ := Board.ofLiterals?_eq_ok_iff.mp hBoard
  obtain ⟨errors, hFinish, -⟩ := finish_eq settings around (board.run lines)
  rw [invoke_of_read hRun hWidth hHeight hLines, hFinish]

/-- An invocation that asks for a run on a board, and whose source can be read, ends with exit code
zero and prints exactly what the robot says on that run. It writes no errors unless it was asked to
log or to trace. -/
theorem run_prints_reports {arguments : List Text} {around : Surroundings} {settings : Settings}
    {board : Board} {lines : List Text} (hRun : Options.read arguments = .ok (.run settings))
    (hWidth : settings.width = .whole board.width)
    (hHeight : settings.height = .whole board.height)
    (hLines : Source.read around.openFile around.input settings.source = .ok lines) :
    (∃ code, (invoke arguments around).ending = .exit code ∧ code.toNat = 0) ∧
      (invoke arguments around).output = Text.unlines (board.reports lines) ∧
      (settings.trace = false → settings.verbose = false →
        (invoke arguments around).errors = []) := by
  obtain ⟨errors, hFinish, hQuiet⟩ := finish_eq settings around (board.run lines)
  rw [invoke_of_read hRun hWidth hHeight hLines, hFinish]
  exact ⟨⟨.success, rfl, rfl⟩, rfl, hQuiet⟩

theorem run_prints_report_past_markup :
    let around := Surroundings.reading "PLACE 1,2,EAST\n[/x]\nREPORT\n".toList
    let ended := invoke ["--width".toList, "3".toList, "-".toList] around
    (∃ code, ended.ending = .exit code ∧ code.toNat = 0) ∧
      ended.output = "1,2,EAST\n".toList ∧ ended.errors = [] := by
  intro around ended
  let settings : Settings := ⟨"-".toList, .whole 3, .whole 5, false, false⟩
  let lines : List Text := ["PLACE 1,2,EAST".toList, "[/x]".toList, "REPORT".toList]
  have hRun : Options.read ["--width".toList, "3".toList, "-".toList] = .ok (.run settings) := rfl
  have hWidth : settings.width = .whole (Board.mk 3 5).width := rfl
  have hHeight : settings.height = .whole (Board.mk 3 5).height := rfl
  have hLines : Source.read around.openFile around.input settings.source = .ok lines := rfl
  have hReports : Text.unlines ((Board.mk 3 5).reports lines) = "1,2,EAST\n".toList := rfl
  obtain ⟨hEnding, hOutput, hErrors⟩ := run_prints_reports hRun hWidth hHeight hLines
  exact ⟨hEnding, hOutput.trans hReports, hErrors rfl rfl⟩

end Invocation

end Tabletop
