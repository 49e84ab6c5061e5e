import Tabletop.Proofs.Console.Literal
import Tabletop.Proofs.Console.Wrap
import Tabletop.Proofs.Run.Guarded
import Tabletop.Proofs.Trace.Labels
import Tabletop.Trace.Boxed

/-!
# Lines in a boxed trace

The labels of a row fit into their columns, so that a row is drawn as a single line exactly if its
input cell has one (`Trace.drawRow_rowCells_iff`). The line of the run is escaped, and in its cell
stands what is shown of escaped text. So a row shows its line as it is exactly if the line has no
loose backslash, no single one at its end, and no more cells than the column
(`Trace.line_shown_iff`). Only a separator can make a line too wide for the column, which is
measured from one line end to the next; the row then has several lines, and the separator gets lost.
-/

namespace Tabletop

namespace Trace

/-! ## Columns -/

/-- The widths of the columns of a table with these rows. -/
def widthsOf (rows : List (List CellLines)) : List Nat :=
  columns.zipIdx.map fun (column, i) => columnWidth column (rows.map (·.getD i []))

/-- The width of the column with the lines of the run. -/
def inputWidth (rows : List (List CellLines)) : Nat := (widthsOf rows).getD 1 0

theorem foldl_measure_bounds (cells : List CellLines) (start : Nat) :
    start ≤ cells.foldl (fun width cell => max width (measure cell)) start ∧
      ∀ cell ∈ cells,
        measure cell ≤ cells.foldl (fun width cell => max width (measure cell)) start := by
  induction cells generalizing start with
  | nil => exact ⟨Nat.le_refl start, fun _ hCell => absurd hCell List.not_mem_nil⟩
  | cons cell cells ih =>
    obtain ⟨hStart, hCells⟩ := ih (max start (measure cell))
    refine ⟨(Nat.le_max_left _ _).trans hStart, List.forall_mem_cons.mpr ⟨?_, hCells⟩⟩
    exact (Nat.le_max_right _ _).trans hStart

theorem measure_le_columnWidth (column : Column) (hGrows : column.isFixed = false)
    {cell : CellLines} {cells : List CellLines} (h : cell ∈ cells) :
    measure cell ≤ columnWidth column cells := by
  rw [columnWidth, hGrows, if_neg Bool.false_ne_true]
  exact (foldl_measure_bounds cells _).2 cell h

theorem least_le_columnWidth (column : Column) (cells : List CellLines) :
    column.least ≤ columnWidth column cells := by
  rw [columnWidth]
  split
  · exact Nat.le_refl _
  · exact (Nat.le_max_left _ _).trans (foldl_measure_bounds cells _).1

theorem inputWidth_pos (rows : List (List CellLines)) : 0 < inputWidth rows :=
  (by decide : 0 < columns[1].least).trans_le (least_le_columnWidth columns[1] _)

theorem endsLine_eq_false {t : Text} (hFree : t.ControlFree) (hLine : '\u2028' ∉ t)
    (hParagraph : '\u2029' ∉ t) : ∀ c ∈ t, endsLine c = false := by
  intro c hc
  rw [endsLine, decide_eq_false_iff_not]
  simp only [List.mem_cons, List.not_mem_nil, or_false]
  rintro (rfl | rfl | rfl | rfl | rfl | rfl | rfl)
  · exact hFree.notMem (by decide) hc
  · exact hFree.notMem (by decide) hc
  · exact hFree.notMem (by decide) hc
  · exact hFree.notMem (by decide) hc
  · exact hFree.notMem (by decide) hc
  · exact hLine hc
  · exact hParagraph hc

theorem measure_cellLines {t : Text} (h : ∀ c ∈ t, endsLine c = false) :
    measure (cellLines t) = Console.cells t := by
  have hFeed : '\n' ∉ t := fun hMem => absurd (h _ hMem) (by decide)
  have hLine : t.splitOnP endsLine = [t] :=
    List.splitOnP_eq_singleton fun c hc => by rw [h c hc]
  rw [measure, cellLines, List.splitOn_eq_singleton hFeed, List.flatMap_singleton, hLine,
    List.foldl_cons, List.foldl_nil, Nat.zero_max]

/-! ## Cells -/

theorem setCell_cellLines {t : Text} (hFree : t.ControlFree) (width : Nat) :
    setCell width (cellLines t) = Console.wrap width t := by
  rw [cellLines, List.splitOn_eq_singleton (hFree.notMem (by decide)), setCell,
    List.flatMap_singleton, Console.expandTabs_of_notMem (hFree.notMem (by decide))]

/-- A label stands on one line of a column that is wide enough for it. -/
theorem setCell_label {t : Text} (h : t.IsPrintedAscii) {width : Nat}
    (hWidth : measure (cellLines t) ≤ width) : setCell width (cellLines t) = [t] := by
  have hEnds : ∀ c ∈ t, endsLine c = false :=
    endsLine_eq_false h.controlFree (fun hc => absurd (h _ hc) (by decide))
      (fun hc => absurd (h _ hc) (by decide))
  rw [measure_cellLines hEnds] at hWidth
  have hLength : t.length ≤ width := h.cells ▸ hWidth
  rw [setCell_cellLines h.controlFree,
    Console.wrap_of_cells_le (Console.trimBeyond_of_length_le hLength) hWidth]

theorem setCell_number (n : Nat) (width : Nat) :
    setCell width (cellLines (Numeral.write n)) =
      [Console.cutShort width (Numeral.write n)] := by
  rw [setCell_cellLines (Text.isPrintedAscii_write n).controlFree]
  exact Console.wrap_of_unbroken (fun c hc => (Command.isField_write n c hc).2) width

/-! ## Rows -/

/-- A line of texts, each in its column, between upright strokes. -/
def drawTexts (stroke : Char) (widths : List Nat) (texts : List Text) : Text :=
  stroke :: ([stroke].intercalate ((columns.zip (widths.zip texts)).map fun (column, width, t) =>
    drawCell column.alignRight width t) ++ [stroke])

/-- The texts on the line of a row that has the given text in its input cell. The number is cut
short to its column. -/
def textsOf (row : Row) (input : Text) : List Text :=
  [Console.cutShort 4 row.number, input, row.command, row.robot, row.output]

theorem drawRow_of_single {widths : List Nat} {cells : List CellLines} (texts : List Text)
    (hSet : List.zipWith setCell widths cells = texts.map ([·])) (stroke : Char) :
    drawRow stroke widths cells = [drawTexts stroke widths texts] := by
  have hHeight : (texts.map ([·])).foldl (fun height cell => max height cell.length) 1 = 1 := by
    clear hSet
    induction texts with
    | nil => rfl
    | cons t texts ih => exact ih
  have hParts : (columns.zip (widths.zip (texts.map ([·])))).map (fun (column, width, cell) =>
      drawCell column.alignRight width (cell.getD 0 [])) =
      (columns.zip (widths.zip texts)).map fun (column, width, t) =>
        drawCell column.alignRight width t := by
    rw [List.zip_map_right, List.zip_map_right, List.map_map]
    rfl
  unfold drawRow
  dsimp only
  rw [hSet, hHeight, List.range_one, List.map_singleton, hParts, drawTexts]

/-- A row of which only the second cell can have several lines is drawn as a single line exactly if
that cell has one. -/
theorem drawRow_eq_singleton_iff {widths : List Nat} {cells : List CellLines} {parts : CellLines}
    {number command robot output : Text}
    (hSet : List.zipWith setCell widths cells = [[number], parts, [command], [robot], [output]])
    (hParts : parts ≠ []) {stroke : Char} {line : Text} :
    drawRow stroke widths cells = [line] ↔
      ∃ input, parts = [input] ∧
        line = drawTexts stroke widths [number, input, command, robot, output] := by
  match parts with
  | [] => exact absurd rfl hParts
  | [input] =>
    rw [drawRow_of_single [number, input, command, robot, output] hSet]
    simp [eq_comm]
  | first :: second :: others =>
    have hLength : (drawRow stroke widths cells).length = others.length + 2 := by
      simp [drawRow, hSet]
    constructor
    · intro h
      rw [h] at hLength
      cases hLength
    · rintro ⟨input, hInput, -⟩
      cases hInput

/-- All but the input of a row are labels. -/
structure IsLabelled (row : Row) : Prop where
  number : ∃ n : Nat, row.number = Numeral.write n
  command : row.command.IsPrintedAscii
  robot : row.robot.IsPrintedAscii
  output : row.output.IsPrintedAscii

theorem isLabelled_row {board : Board} {robot : Robot} {lines : List Text} {step : Step Text}
    (hStep : step ∈ board.runFrom robot lines) : IsLabelled (row step) := by
  obtain ⟨before, hStepped⟩ := Board.exists_transition_of_mem_stepsFrom hStep
  exact ⟨⟨step.number, rfl⟩, Command.isPrintedAscii_label? step.command,
    step.robot.isPrintedAscii_label, hStepped.isPrintedAscii_report⟩

theorem zipWith_setCell {rows : List (List CellLines)} {row : Row} {input : Text}
    (hLabels : IsLabelled row) (hRow : rowCells row input ∈ rows) (hFree : input.ControlFree) :
    List.zipWith setCell (widthsOf rows) (rowCells row input) =
      [[Console.cutShort 4 row.number], Console.wrap (inputWidth rows) input, [row.command],
        [row.robot], [row.output]] := by
  have hCell : ∀ i, (rowCells row input).getD i [] ∈ rows.map (·.getD i []) :=
    fun i => List.mem_map_of_mem hRow
  obtain ⟨n, hNumber⟩ := hLabels.number
  have hCommand := setCell_label hLabels.command
    (measure_le_columnWidth columns[2] rfl (hCell 2))
  have hRobot := setCell_label hLabels.robot
    (measure_le_columnWidth columns[3] rfl (hCell 3))
  have hOutput := setCell_label hLabels.output
    (measure_le_columnWidth columns[4] rfl (hCell 4))
  have hNumber' := setCell_number n 4
  rw [← hNumber] at hNumber'
  rw [← setCell_cellLines hFree, ← hNumber', ← hCommand, ← hRobot, ← hOutput]
  rfl

/-! ## Escaped text in a column -/

theorem exists_fillCells (width : Nat) (t : Text) :
    ∃ n, Console.fillCells width t = t ++ Text.spaces n :=
  ⟨width - Console.cells t + (width - Console.cells (Console.padCells width t)), by
    simp [Console.fillCells, Console.padCells, Text.spaces]⟩

/-- What stands in the input cell of a line can be read off that line, up to blanks at its end. -/
theorem stripEnd_eq_of_drawTexts {rows : List (List CellLines)} {stroke : Char} {row : Row}
    {s t : Text} (h : drawTexts stroke (widthsOf rows) (textsOf row s) =
      drawTexts stroke (widthsOf rows) (textsOf row t)) : s.stripEnd = t.stripEnd := by
  obtain ⟨number, input, command, robot, output, hWidths⟩ : ∃ number input command robot output,
      widthsOf rows = [number, input, command, robot, output] := ⟨_, _, _, _, _, rfl⟩
  rw [hWidths] at h
  have hFilled : Console.fillCells input s = Console.fillCells input t := by
    simpa [drawTexts, textsOf, columns, drawCell, List.intercalate, List.intersperse] using h
  obtain ⟨m, hm⟩ := exists_fillCells input s
  obtain ⟨n, hn⟩ := exists_fillCells input t
  have hBlank : ∀ k, Text.AllBlank (Text.spaces k) := by
    intro k c hc
    rw [List.eq_of_mem_replicate hc]
    decide
  calc s.stripEnd = (s ++ Text.spaces m).stripEnd := (Text.stripEnd_append (hBlank m) s).symm
    _ = (t ++ Text.spaces n).stripEnd := by rw [← hm, hFilled, hn]
    _ = t.stripEnd := Text.stripEnd_append (hBlank n) t

theorem stripEnd_strip (line : Text) : line.strip.stripEnd = line.strip :=
  Text.stripEnd_eq_self line.trimmed_strip.2

theorem stripEnd_shownEscaped {t : Text} (h : t.stripEnd = t) :
    (Markup.shownEscaped t).stripEnd = Markup.shownEscaped t := by
  apply Text.stripEnd_eq_self
  rw [Markup.getLast?_shownEscaped]
  intro c hc
  rw [← h] at hc
  exact Text.getLast_stripEnd hc

/-- A text does not become wider by the loss of backslashes. -/
theorem cells_dropLoose_le (u t : Text) :
    Console.cells (u ++ Markup.dropLoose t) ≤ Console.cells (u ++ t) := by
  fun_induction Markup.dropLoose t generalizing u with
  | case1 rest hTag ih => simpa using ih (u ++ ['\\', '['])
  | case2 rest hTag ih =>
    calc Console.cells (u ++ '[' :: Markup.dropLoose rest) ≤ Console.cells (u ++ '[' :: rest) := by
          simpa using ih (u ++ ['['])
      _ ≤ Console.cells (u ++ '\\' :: '[' :: rest) :=
          Console.cells_append_cons_le (by decide +kernel) (by decide +kernel) u rest
  | case3 c rest hOther ih => simpa using ih (u ++ [c])
  | case4 => exact Nat.le_refl _

theorem cells_le_of_wrap {width : Nat} (hWidth : 0 < width) {part t u : Text}
    (hWrap : Console.wrap width u = [part]) (hPart : part.stripEnd = t) :
    Console.cells t ≤ width := by
  have hMem : part ∈ Console.wrap width u := by
    rw [hWrap]
    exact List.mem_singleton_self part
  rw [← hPart]
  exact (Console.cells_stripEnd_le part).trans (Console.cells_le_of_mem_wrap hWidth hMem)

/-- If a trimmed text comes out of a column in one piece after it was escaped, it fits into the
column, and escaping has changed nothing. -/
theorem shownEscaped_of_wrap {width : Nat} (hWidth : 0 < width) {part t : Text}
    (ht : t.stripEnd = t) (hWrap : Console.wrap width (Markup.shownEscaped t) = [part])
    (hPart : part.stripEnd = t) :
    Markup.shownEscaped t = t ∧ Console.cells t ≤ width := by
  have hShown := stripEnd_shownEscaped ht
  have hNarrow : Console.cells t ≤ width := cells_le_of_wrap hWidth hWrap hPart
  have hCut := Console.eq_cutShort_of_wrap hWrap
  rw [Console.trimBeyond_of_stripEnd hShown, Console.cutShort] at hCut
  split at hCut
  · rw [hCut, hShown] at hPart
    exact ⟨hPart, hNarrow⟩
  · -- The text would end with an ellipsis, and what is shown of it could not be wider.
    rename_i hWide
    have hEllipsis := Text.stripEnd_append_cons (c := '…') (by decide)
      (Console.takeCells (width - 1) (Markup.shownEscaped t)) []
    rw [← hCut, hPart] at hEllipsis
    have hSlashes : Markup.backslashes t = 0 := by
      rw [hEllipsis, Markup.backslashes_append_cons (by decide)]
      rfl
    rw [Markup.shownEscaped, hSlashes, if_neg (by decide), List.replicate_zero,
      List.append_nil] at hWide
    exact absurd ((cells_dropLoose_le [] t).trans hNarrow) hWide

/-- A row with a trimmed text in its input cell is drawn as a single line exactly if the text fits
into the column. -/
theorem drawRow_rowCells_iff {rows : List (List CellLines)} {row : Row} {input : Text}
    (hLabels : IsLabelled row) (hRow : rowCells row input ∈ rows) (hFree : input.ControlFree)
    (hInput : input.stripEnd = input) (stroke : Char) :
    drawRow stroke (widthsOf rows) (rowCells row input) =
        [drawTexts stroke (widthsOf rows) (textsOf row input)] ↔
      Console.cells input ≤ inputWidth rows := by
  rw [drawRow_eq_singleton_iff (zipWith_setCell hLabels hRow hFree) (Console.wrap_ne_nil _ _)]
  constructor
  · rintro ⟨part, hWrap, hDrawn⟩
    have hPart := stripEnd_eq_of_drawTexts hDrawn
    rw [hInput] at hPart
    exact cells_le_of_wrap (inputWidth_pos rows) hWrap hPart.symm
  · intro hCells
    exact ⟨input, Console.wrap_of_cells_le (Console.trimBeyond_of_stripEnd hInput _) hCells, rfl⟩

/-- A row shows the line of the run on a single line, as it is, exactly if escaping has changed
nothing and the line fits into the column. -/
theorem drawRow_shownEscaped_iff {rows : List (List CellLines)} {row : Row} {t : Text}
    (hLabels : IsLabelled row) (hRow : rowCells row (Markup.shownEscaped t) ∈ rows)
    (hFree : t.ControlFree) (ht : t.stripEnd = t) (stroke : Char) :
    drawRow stroke (widthsOf rows) (rowCells row (Markup.shownEscaped t)) =
        [drawTexts stroke (widthsOf rows) (textsOf row t)] ↔
      ¬ Markup.HasLoose t ∧ Markup.backslashes t ≠ 1 ∧ Console.cells t ≤ inputWidth rows := by
  have hSet := zipWith_setCell hLabels hRow (Markup.controlFree_shownEscaped hFree)
  rw [drawRow_eq_singleton_iff hSet (Console.wrap_ne_nil _ _), ← and_assoc,
    ← Markup.shownEscaped_eq_self_iff]
  constructor
  · rintro ⟨part, hWrap, hDrawn⟩
    have hPart := stripEnd_eq_of_drawTexts hDrawn
    rw [ht] at hPart
    exact shownEscaped_of_wrap (inputWidth_pos rows) ht hWrap hPart.symm
  · rintro ⟨hShown, hCells⟩
    rw [hShown]
    exact ⟨t, Console.wrap_of_cells_le (Console.trimBeyond_of_stripEnd ht _) hCells, rfl⟩

/-- What is shown of a text without line ends takes no more cells than its column has. -/
theorem cells_shownEscaped_le {rows : List (List CellLines)} {row : Row} {t : Text}
    (hRow : rowCells row (Markup.shownEscaped t) ∈ rows) (hEnds : ∀ c ∈ t, endsLine c = false) :
    Console.cells (Markup.shownEscaped t) ≤ inputWidth rows := by
  have hMeasure := measure_le_columnWidth columns[1] rfl
    (List.mem_map_of_mem (f := (·.getD 1 [])) hRow)
  rw [← measure_cellLines fun c hc => hEnds c (Markup.shownEscaped_subset t hc)]
  exact hMeasure

/-- The number of a row is shown whole up to 9999. -/
theorem number_shown_iff (n : Nat) :
    Console.cutShort 4 (Numeral.write n) = Numeral.write n ↔ n < 10000 := by
  rw [Console.cutShort_eq_self_iff (by decide), (Text.isPrintedAscii_write n).cells]
  exact Nat.length_toDigits_le_iff (by decide) (by decide)

example : Console.cutShort 4 (Numeral.write 10000) = "100…".toList := by decide +kernel

/-! ## Whole traces -/

/-- A boxed trace with columns of these widths, and with these lines between its head and its
foot. -/
def framed (widths : List Nat) (lines : List Text) : Text :=
  Text.unlines ([] :: title :: drawRule ⟨'┏', '━', '┳', '┓'⟩ widths ::
    (drawRow '┃' widths (columns.map (cellLines ·.heading)) ++
      drawRule ⟨'┡', '━', '╇', '┩'⟩ widths ::
        (lines ++ [drawRule ⟨'└', '─', '┴', '┘'⟩ widths, []])))

theorem mapM_eq_ok {ε α β : Type} {f : α → Except ε β} {g : α → β} {list : List α}
    (h : ∀ a ∈ list, f a = .ok (g a)) : list.mapM f = .ok (list.map g) := by
  induction list with
  | nil => rfl
  | cons a list ih =>
    rw [List.forall_mem_cons] at h
    rw [List.mapM_cons, h.1, ih h.2]
    rfl

theorem boxed_of_shown {steps : List (Step Text)} {shown : Text → Text}
    (hShown : ∀ step ∈ steps, shownInput (row step) = .ok (shown step.line.strip)) :
    let rows := steps.map fun step => rowCells (row step) (shown step.line.strip)
    boxed steps = .ok (framed (widthsOf rows) (rows.flatMap (drawRow '│' (widthsOf rows)))) := by
  intro rows
  have hCells : (steps.map row).mapM (fun row => (shownInput row).map (rowCells row)) =
      .ok rows := by
    rw [List.mapM_map]
    apply mapM_eq_ok
    intro step hStep
    rw [Function.comp_apply, hShown step hStep, Except.map]
  have hTable : tableLines rows ++ [[]] =
      drawRule ⟨'┏', '━', '┳', '┓'⟩ (widthsOf rows) ::
        (drawRow '┃' (widthsOf rows) (columns.map (cellLines ·.heading)) ++
          drawRule ⟨'┡', '━', '╇', '┩'⟩ (widthsOf rows) ::
            (rows.flatMap (drawRow '│' (widthsOf rows)) ++
              [drawRule ⟨'└', '─', '┴', '┘'⟩ (widthsOf rows), []])) := by
    simp [tableLines, widthsOf]
  rw [boxed, hCells, framed, ← hTable]
  rfl

/-- The labels of a run can be written if the coordinates of its robots can. -/
theorem boxed?_of_fits {board : Board} {robot : Robot} {lines : List Text}
    (hFits : ∀ step ∈ board.runFrom robot lines, step.robot.Fits) :
    boxed? (board.runFrom robot lines) = some (boxed (board.runFrom robot lines)) := by
  have hWritable : (board.runFrom robot lines).all isWritable = true := by
    rw [List.all_eq_true]
    intro step hStep
    have hCommand : step.command = Command.ofLine? step.line :=
      Board.exists_line_of_mem_stepsFrom hStep
    rw [isWritable, hCommand, Command.write?_ofLine?, Robot.write?_of_fits (hFits step hStep)]
    rfl
  rw [boxed?, if_pos hWritable]

/-- In a boxed trace of lines without controls and emoji codes, in which all coordinates can be
written, every line of the run has a row, in the order of the run. In its input cell stands what is
shown of the escaped line, and the row is drawn as a single line exactly if that fits into the
column, as it always does without a separator. The row is the single line that shows the line of the
run as it is, without the blanks around it, exactly if, besides, no backslash in it stands in front
of a bracket that begins no tag and it does not end with a single backslash. -/
theorem line_shown_iff {board : Board} {robot : Robot} {lines : List Text}
    (hFree : ∀ line ∈ lines, line.ControlFree)
    (hCodes : ∀ line ∈ lines, Markup.Uncoded line.strip)
    (hFits : ∀ step ∈ board.runFrom robot lines, step.robot.Fits) :
    let steps := board.runFrom robot lines
    let rowOf (step : Step Text) : List CellLines :=
      rowCells (row step) (Markup.shownEscaped step.line.strip)
    let rows := steps.map rowOf
    steps.map Step.line = lines ∧
      boxed? steps =
        some (.ok (framed (widthsOf rows) (rows.flatMap (drawRow '│' (widthsOf rows))))) ∧
      ∀ step ∈ steps,
        (drawRow '│' (widthsOf rows) (rowOf step) = [drawTexts '│' (widthsOf rows)
            (textsOf (row step) (Markup.shownEscaped step.line.strip))] ↔
          Console.cells (Markup.shownEscaped step.line.strip) ≤ inputWidth rows) ∧
        (drawRow '│' (widthsOf rows) (rowOf step) =
            [drawTexts '│' (widthsOf rows) (textsOf (row step) step.line.strip)] ↔
          ¬ Markup.HasLoose step.line.strip ∧ Markup.backslashes step.line.strip ≠ 1 ∧
            Console.cells step.line.strip ≤ inputWidth rows) ∧
        ('\u2028' ∉ step.line.strip → '\u2029' ∉ step.line.strip →
          Console.cells (Markup.shownEscaped step.line.strip) ≤ inputWidth rows) := by
  intro steps rowOf rows
  have hLines : steps.map Step.line = lines := Board.map_line_stepsFrom board _ 1 robot lines
  have hMem : ∀ step ∈ steps, step.line ∈ lines := by
    intro step hStep
    rw [← hLines]
    exact List.mem_map_of_mem hStep
  have hStripped : ∀ step ∈ steps, step.line.strip.ControlFree := fun step hStep =>
    (hFree _ (hMem step hStep)).of_subset step.line.strip_subset
  have hShown : ∀ step ∈ steps,
      shownInput (row step) = .ok (Markup.shownEscaped step.line.strip) := fun step hStep =>
    Markup.render_escape (hStripped step hStep) (hCodes _ (hMem step hStep))
  refine ⟨hLines, ?_, fun step hStep => ?_⟩
  · rw [boxed?_of_fits hFits, boxed_of_shown hShown]
  have hRow : rowOf step ∈ rows := List.mem_map_of_mem hStep
  have hLabels : IsLabelled (row step) := isLabelled_row hStep
  have hTrimmed : step.line.strip.stripEnd = step.line.strip := stripEnd_strip step.line
  refine ⟨drawRow_rowCells_iff hLabels hRow
      (Markup.controlFree_shownEscaped (hStripped step hStep)) (stripEnd_shownEscaped hTrimmed) '│',
    drawRow_shownEscaped_iff hLabels hRow (hStripped step hStep) hTrimmed '│',
    fun hLine hParagraph => ?_⟩
  exact cells_shownEscaped_le hRow (endsLine_eq_false (hStripped step hStep) hLine hParagraph)

/-- A tag is shown as it is, a backslash in front of a bracket that begins no tag is dropped, and
where a separator stands in a line too long for the column, the line is broken. -/
theorem line_shown_at_loose_backslash :
    let lines : List Text :=
      ["[b]x[/b]".toList, "\\[1]".toList, "PLACE 1,1,EAST\u2028JUNK".toList]
    let draw (texts : List String) : Text :=
      drawTexts '│' [4, 14, 10, 10, 8] (texts.map String.toList)
    (∀ line ∈ lines, Text.ControlFree line) ∧ (∀ line ∈ lines, Markup.Uncoded (Text.strip line)) ∧
      (∀ step ∈ (Board.mk 5 5).run lines, step.robot.Fits) ∧
      boxed? ((Board.mk 5 5).run lines) = some (.ok (framed [4, 14, 10, 10, 8]
        [draw ["1", "[b]x[/b]", "ignored", "unplaced", ""],
          draw ["2", "[1]", "ignored", "unplaced", ""],
          draw ["3", "PLACE 1,1,EAST", "ignored", "unplaced", ""],
          draw ["", "JUNK", "", "", ""]])) := by
  intro lines draw
  have hFree : ∀ line ∈ lines, Text.ControlFree line := by decide
  have hCodes : ∀ line ∈ lines, Markup.Uncoded (Text.strip line) := by
    simp only [lines, List.forall_mem_cons, List.not_mem_nil, false_implies, implies_true,
      and_true]
    exact ⟨Markup.uncoded_of_not_mem (by decide), Markup.uncoded_of_not_mem (by decide),
      Markup.uncoded_of_not_mem (by decide)⟩
  have hBoard : (Board.mk 5 5).Fits :=
    ⟨Numeral.fits_iff.mpr (by decide), Numeral.fits_iff.mpr (by decide)⟩
  have hFits : ∀ step ∈ (Board.mk 5 5).run lines, step.robot.Fits := fun step hStep pose hPose =>
    Board.fits_of_holds hBoard (Board.holds_of_mem_stepsFrom hStep hPose)
  refine ⟨hFree, hCodes, hFits, ?_⟩
  rw [Board.run, (line_shown_iff hFree hCodes hFits).2.1]
  decide +kernel

/-- A line that ends with a single backslash is shown with two of them. -/
theorem last_backslash_doubled :
    let trace (input : Text) : Text :=
      framed [4, 12, 10, 10, 8] [drawTexts '│' [4, 12, 10, 10, 8]
        ["1".toList, input, "ignored".toList, "unplaced".toList, []]]
    boxed? ((Board.mk 5 5).run ["a\\".toList]) = some (.ok (trace "a\\\\".toList)) ∧
      trace "a\\\\".toList ≠ trace "a\\".toList := by
  decide +kernel

end Trace

end Tabletop
