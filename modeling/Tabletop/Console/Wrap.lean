import Tabletop.Console.CellWidth
import Tabletop.Text.Blank

/-!
# Lines in a column

A line that takes more cells than its column has is cut between its words, each of which keeps the
blanks behind it. The parts stand on lines of their own. Blanks at the end of such a line are left
out as far as they stand beyond the column; if the line is still too wide, it is cut short and ends
with an ellipsis.
-/

namespace Tabletop

namespace Console

/-- The words of a line, each with the blanks behind it. Blanks in front belong to the first. -/
def spacedWords (line : Text) : List Text :=
  match line.splitBy fun c next => !Text.isBlank c || Text.isBlank next with
  | first :: next :: others =>
    if first.all Text.isBlank then (first ++ next) :: others else first :: next :: others
  | words => words

/-- Words on lines of the given width. On the line in the making stands `line`, whose words take
`taken` cells, each measured on its own. A word that is too wide for any line gets one for itself
and those blanks that go with it. -/
def layWords (width : Nat) (line : Text) (taken : Nat) : List Text → List Text
  | [] => [line]
  | word :: words =>
    if taken + cells word.stripEnd ≤ width then
      layWords width (line ++ word) (taken + cells word) words
    else if line = [] then layWords width word (cells word) words
    else line :: layWords width word (cells word) words

/-- `line` without the blanks at its end that stand behind the first `width` characters. -/
def trimBeyond (width : Nat) (line : Text) : Text :=
  line.take (max width line.stripEnd.length)

/-- Whether `t` can be cut behind its first `n` characters: the next one takes cells of its own. -/
def cutsAt (t : Text) (n : Nat) : Bool :=
  match t.drop n with
  | c :: _ => charCells c ≠ 0 && cells (t.take n) < cells (t.take (n + 1))
  | [] => false

/-- As much of the start of `t` as `room` cells can hold. Half of a character that takes two cells
is a space. -/
def takeCells (room : Nat) (t : Text) : Text :=
  let fits (n : Nat) : Bool := cutsAt t n && cells (t.take n) ≤ room
  padCells room (t.take (((List.range t.length).filter fits).getLastD 0))

/-- `t` cut short to the given number of cells, with an ellipsis in the last one. -/
def cutShort (width : Nat) (t : Text) : Text :=
  if cells t ≤ width then t else takeCells (width - 1) t ++ ['…']

/-- The lines that a line fills in a column of the given width. -/
def wrap (width : Nat) (line : Text) : List Text :=
  (layWords width [] 0 (spacedWords line)).map fun part => cutShort width (trimBeyond width part)

end Console

end Tabletop
