import Tabletop.Console.Print
import Tabletop.Console.Wrap
import Tabletop.Guarded
import Tabletop.Trace.Row

/-!
# Boxed traces

A boxed trace is a table drawn with box characters, with a heavy head. The column of the numbers has
a fixed width. Every other column is as wide as its widest cell, its heading or its least width,
counted in cells of the console, which is taken to have room for the table. Cells are measured from
one end of a line to the next, and other characters than line feeds end a line there. A text with
such a character in it may not fit into its column, and is then set on several lines.

Only the input could hold markup; it is escaped, so that its tags are shown and none has parameters
that the console could refuse. An empty line, the title, the table and another empty line make up
the trace.
-/

namespace Tabletop

namespace Trace

/-! ## Cells and columns -/

/-- The lines of a cell. -/
abbrev CellLines := List Text

/-- The lines that a text fills in a cell. -/
def cellLines (t : Text) : CellLines := t.splitOn '\n'

/-- The characters that end a line when a cell is measured. -/
def endsLine (c : Char) : Bool :=
  c ∈ ['\n', '\x1c', '\x1d', '\x1e', '\u0085', '\u2028', '\u2029']

/-- The width of a cell: that of its widest line. -/
def measure (cell : CellLines) : Nat :=
  (cell.flatMap (List.splitOnP endsLine)).foldl (fun width line => max width (Console.cells line)) 0

structure Column where
  heading : Text
  least : Nat
  /-- Whether the least width is the only one. -/
  isFixed : Bool
  alignRight : Bool

def columns : List Column :=
  [⟨headings.number, 4, true, true⟩, ⟨headings.input, 12, false, false⟩,
   ⟨headings.command, 10, false, false⟩, ⟨headings.robot, 10, false, false⟩,
   ⟨headings.output, 8, false, false⟩]

/-- The width of a column that holds the given cells. -/
def columnWidth (column : Column) (cells : List CellLines) : Nat :=
  if column.isFixed then column.least
  else cells.foldl (fun width cell => max width (measure cell))
    (max column.least (Console.cells column.heading))

/-! ## Drawing -/

/-- The characters that a line of a table is drawn with. -/
structure Strokes where
  first : Char
  fill : Char
  between : Char
  last : Char

/-- A line across the table. -/
def drawRule (strokes : Strokes) (widths : List Nat) : Text :=
  strokes.first ::
    ([strokes.between].intercalate (widths.map fun width =>
      List.replicate (width + 2) strokes.fill) ++ [strokes.last])

/-- The lines of a cell in a column of the given width. -/
def setCell (width : Nat) (cell : CellLines) : CellLines :=
  cell.flatMap fun line => Console.wrap width (Console.expandTabs line)

/-- One line of a cell, filled up to the width of its column. -/
def drawCell (alignRight : Bool) (width : Nat) (line : Text) : Text :=
  ' ' :: ((if alignRight then Text.spaces (width - Console.cells line) ++ line
    else Console.fillCells width line) ++ [' '])

/-- The lines of a row of cells, between upright strokes. A cell with fewer lines than the row is
followed by empty lines. -/
def drawRow (stroke : Char) (widths : List Nat) (cells : List CellLines) : List Text :=
  let set := List.zipWith setCell widths cells
  let height := set.foldl (fun height cell => max height cell.length) 1
  (List.range height).map fun i =>
    let parts := (columns.zip (widths.zip set)).map fun (column, width, cell) =>
      drawCell column.alignRight width (cell.getD i [])
    stroke :: ([stroke].intercalate parts ++ [stroke])

/-- The cells of a row. -/
def rowCells (row : Row) (input : Text) : List CellLines :=
  [row.number, input, row.command, row.robot, row.output].map cellLines

/-- The lines of a table with these cells. -/
def tableLines (rows : List (List CellLines)) : List Text :=
  let widths := columns.zipIdx.map fun (column, i) =>
    columnWidth column (rows.map (·.getD i []))
  drawRule ⟨'┏', '━', '┳', '┓'⟩ widths ::
    (drawRow '┃' widths (columns.map (cellLines ·.heading)) ++
      drawRule ⟨'┡', '━', '╇', '┩'⟩ widths ::
        (rows.flatMap (drawRow '│' widths) ++ [drawRule ⟨'└', '─', '┴', '┘'⟩ widths]))

/-- What the input cell of a row shows. -/
def shownInput (row : Row) : Except Markup.Fault Text := Markup.render (Markup.escape row.input)

/-- A boxed trace. -/
def boxed (steps : List (Step Text)) : Except Markup.Fault Text := do
  let cells ← (steps.map row).mapM fun row => (shownInput row).map (rowCells row)
  return Text.unlines ([] :: title :: (tableLines cells ++ [[]]))

/-- Whether no number in the labels of a step has too many digits to be written. -/
def isWritable (step : Step Text) : Bool :=
  (Command.write? step.command).isSome && step.robot.write?.isSome

/-- A boxed trace, unless a label in it cannot be written. -/
def boxed? (steps : List (Step Text)) : Option (Except Markup.Fault Text) :=
  if steps.all isWritable then some (boxed steps) else none

end Trace

end Tabletop
