import Tabletop.Text.Basic

/-!
# Paragraphs

A paragraph is a text whose words are laid out in lines of a bounded width, as many on each line
as fit. A line may also end behind a hyphen inside a word. Only a word that is longer than a whole
line is cut.
-/

namespace Tabletop

namespace Paragraph

/-- The parts of a word between which a line may end: it may end behind a hyphen that stands
between letters, two on either side. The text `before` is the part read so far. -/
def hyphenParts (before : Text) : Text → List Text
  | [] => [before]
  | '-' :: c :: d :: rest =>
    if (before.drop (before.length - 2)).length = 2 ∧
        (before.drop (before.length - 2)).all Char.isAlpha ∧ c.isAlpha ∧ d.isAlpha then
      (before ++ ['-']) :: hyphenParts [] (c :: d :: rest)
    else hyphenParts (before ++ ['-']) (c :: d :: rest)
  | c :: rest => hyphenParts (before ++ [c]) rest

/-- The parts of a text that stay together: the parts of its words, and the spaces between. -/
def parts (t : Text) : List Text :=
  [[' ']].intercalate ((t.splitOn ' ').map (hyphenParts []))

/-- A line without a space at its end. -/
def trimLine (line : Text) : Text :=
  if line.getLast? = some ' ' then line.dropLast else line

/-- The lines of a paragraph whose first line starts with `line` and goes on with the parts. The
first argument bounds the number of steps. -/
def fill (width : Nat) : Nat → Text → List Text → List Text
  | 0, line, _ => [line]
  | _, line, [] => if line = [] then [] else [trimLine line]
  | steps + 1, line, part :: others =>
    if line = [] ∧ part = [' '] then fill width steps [] others
    else if line.length + part.length ≤ width then fill width steps (line ++ part) others
    else if width < part.length then
      let room := width - line.length
      (line ++ part.take room) :: fill width steps [] (part.drop room :: others)
    else trimLine line :: fill width steps [] (part :: others)

/-- The lines of a paragraph. -/
def lines (width : Nat) (t : Text) : List Text :=
  fill width (3 * t.length + 3) [] (parts t)

end Paragraph

end Tabletop
