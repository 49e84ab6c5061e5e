import Tabletop.Command
import Tabletop.Text.Blank

/-!
# Reading commands

A line stands for a command when, without the blanks at its ends and in any mixture of upper
and lower case of the ASCII letters, it is one of the words `MOVE`, `LEFT`, `RIGHT`, `REPORT`,
or the word `PLACE`, one space or tab, and three fields between two commas: a numeral, a numeral
and the name of a heading, each with any blanks around it. Every other line stands for no
command, and reading it gives `none`.
-/

namespace Tabletop

namespace Command

/-- The commands that are a single word. -/
def single : List Command := [move, left, right, report]

/-- The command whose whole line is that word. -/
def ofWord? (word : Text) : Option Command := single.find? (·.label == word.upper)

/-- The word a placement starts with. -/
def placeWord : Text := "PLACE".toList

/-- The placement described by two coordinates and the name of a heading. -/
def ofFields? : List Text → Option Command
  | [x, y, heading] => do
    let x ← Numeral.read? x.strip
    let y ← Numeral.read? y.strip
    let heading ← Heading.ofName? heading.strip
    return place ⟨⟨x, y⟩, heading⟩
  | _ => none

/-- The placement that a stripped line stands for: its first word, a separator, its fields. -/
def ofPlacement? (line : Text) : Option Command :=
  match line.splitAt placeWord.length with
  | (word, separator :: fields) =>
    if Text.upper word = placeWord ∧ (separator = ' ' ∨ separator = '\t') then
      ofFields? ((Text.strip fields).splitOn ',')
    else none
  | _ => none

/-- The command a line stands for. -/
def ofLine? (line : Text) : Option Command :=
  (ofWord? line.strip).or (ofPlacement? line.strip)

end Command

end Tabletop
