import Tabletop.Proofs.Text.Split
import Tabletop.Proofs.Text.Strip
import Tabletop.Proofs.Trace.Labels
import Tabletop.Trace.Plain

/-!
# Lines in a plain trace

A plain trace gives every step one line, behind the five lines of its head (`getElem?_plainLines`):
the labels in a row end no line, and neither does the line of the run, if no line feed stands in it
(`feed_notMem_plainLines`).
-/

namespace Tabletop

namespace Trace

/-! ## Where the lines stand -/

theorem length_plainLines (rows : List Row) : (plainLines rows).length = rows.length + 6 := by
  simp [plainLines, plainHead]

theorem take_plainLines (rows : List Row) : (plainLines rows).take 5 = plainHead := rfl

/-- The rows stand behind the five lines of the head. -/
theorem getElem?_plainLines {rows : List Row} {i : Nat} {row : Row} (h : rows[i]? = some row) :
    (plainLines rows)[i + 5]? = some (plainRow row) := by
  obtain ⟨hLength, -⟩ := List.getElem?_eq_some_iff.mp h
  have hHead : plainHead.length = 5 := rfl
  have hBehind : (plainLines rows)[i + 5]? = (rows.map plainRow ++ [[]])[i]? := by
    rw [plainLines, List.append_assoc, List.getElem?_append_right (by omega), hHead,
      Nat.add_sub_cancel]
  rw [hBehind, List.getElem?_append_left (by simpa using hLength), List.getElem?_map, h,
    Option.map_some]

theorem getElem?_plainLines_length (rows : List Row) :
    (plainLines rows)[rows.length + 5]? = some [] := by
  have hLength : (plainHead ++ rows.map plainRow).length = rows.length + 5 := by
    simp [plainHead]
  rw [plainLines, ← hLength, List.getElem?_concat_length]

/-! ## Rows on one line -/

theorem feed_notMem_plainRow {row : Row} (hNumber : '\n' ∉ row.number) (hInput : '\n' ∉ row.input)
    (hCommand : '\n' ∉ row.command) (hRobot : '\n' ∉ row.robot) (hOutput : '\n' ∉ row.output) :
    '\n' ∉ plainRow row := by
  rw [plainRow, Text.mem_intercalate (by decide), not_exists]
  rintro cell ⟨hCell, hFeed⟩
  revert cell
  simp only [List.forall_mem_cons]
  exact ⟨Text.feed_notMem_padLeft hNumber 4, Text.feed_notMem_padRight hInput 24,
    Text.feed_notMem_padRight hCommand 20, Text.feed_notMem_padRight hRobot 14,
    Text.feed_notMem_padRight hOutput 12, fun _ h => absurd h List.not_mem_nil⟩

/-- The row of a step is one line if the line of the run is. -/
theorem feed_notMem_row {board : Board} {robot : Robot} {lines : List Text} {step : Step Text}
    (hStep : step ∈ board.runFrom robot lines) (hLine : '\n' ∉ step.line) :
    '\n' ∉ plainRow (row step) := by
  obtain ⟨before, hStepped⟩ := Board.exists_transition_of_mem_stepsFrom hStep
  apply feed_notMem_plainRow
  · exact (Text.isPrintedAscii_write step.number).controlFree.notMem (by decide)
  · exact fun hFeed => hLine (step.line.strip_subset hFeed)
  · exact (Command.isPrintedAscii_label? step.command).controlFree.notMem (by decide)
  · exact step.robot.isPrintedAscii_label.controlFree.notMem (by decide)
  · exact hStepped.isPrintedAscii_report.controlFree.notMem (by decide)

theorem feed_notMem_plainLines {board : Board} {robot : Robot} {lines : List Text}
    (h : ∀ line ∈ lines, '\n' ∉ line) :
    ∀ line ∈ plainLines ((board.runFrom robot lines).map row), '\n' ∉ line := by
  have hHead : ∀ line ∈ plainHead, '\n' ∉ line := by decide
  have hRows : ∀ line ∈ ((board.runFrom robot lines).map row).map plainRow, '\n' ∉ line := by
    rw [List.map_map, List.forall_mem_map]
    intro step hStep
    apply feed_notMem_row hStep
    apply h
    rw [← board.map_line_stepsFrom Command.ofLine? 1 robot lines]
    exact List.mem_map_of_mem hStep
  intro line hLine
  rw [plainLines, List.mem_append, List.mem_append, List.mem_singleton] at hLine
  rcases hLine with (hLine | hLine) | rfl
  · exact hHead line hLine
  · exact hRows line hLine
  · exact List.not_mem_nil

end Trace

end Tabletop
