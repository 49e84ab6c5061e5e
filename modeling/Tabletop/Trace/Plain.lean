import Tabletop.Trace.Row

/-!
# Plain traces

A plain trace is a table of lines in columns of fixed widths, which are counted in characters. A
cell that is too long for its column is not cut. Five lines stand above the rows and an empty
line below them.
-/

namespace Tabletop

namespace Trace

/-- The line of a row, with the number on the right of its column and all else on the left. -/
def plainRow (row : Row) : Text :=
  [' '].intercalate
    [Text.padLeft 4 row.number, Text.padRight 24 row.input, Text.padRight 20 row.command,
     Text.padRight 14 row.robot, Text.padRight 12 row.output]

/-- A line drawn with one character. -/
def rule (c : Char) : Text := List.replicate 78 c

/-- The lines above the rows. -/
def plainHead : List Text := [[], title, rule '=', plainRow headings, rule '-']

/-- The lines of a plain trace. -/
def plainLines (rows : List Row) : List Text := plainHead ++ rows.map plainRow ++ [[]]

/-- A plain trace. -/
def plain (steps : List (Step Text)) : Text := Text.unlines (plainLines (steps.map row))

end Trace

end Tabletop
