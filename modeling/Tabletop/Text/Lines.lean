import Tabletop.Text.Basic

/-!
# The lines of a text

A line ends at a carriage return and line feed, at a carriage return, or at a line feed, and
at no other character. The terminator belongs to no line. A text that does not end with a
terminator has a last line without one; a terminator at the very end starts no further line.
`Text.lineFeeds` writes all three terminators as line feeds, as a text is read from bytes.
-/

namespace Tabletop

namespace Text

/-- `c` put in front of the first line, which it starts if there is none. -/
def joinFirst (c : Char) : List Text → List Text
  | [] => [[c]]
  | line :: others => (c :: line) :: others

/-- The lines of a text, without their terminators. -/
def lines : Text → List Text
  | [] => []
  | '\r' :: '\n' :: rest => [] :: lines rest
  | '\r' :: rest => [] :: lines rest
  | '\n' :: rest => [] :: lines rest
  | c :: rest => joinFirst c (lines rest)

/-- Every carriage return, with a line feed behind it or not, as one line feed. -/
def lineFeeds : Text → Text
  | [] => []
  | '\r' :: '\n' :: rest => '\n' :: lineFeeds rest
  | '\r' :: rest => '\n' :: lineFeeds rest
  | c :: rest => c :: lineFeeds rest

@[simp] theorem lines_nil : lines [] = [] := rfl

end Text

end Tabletop
