import Tabletop.Text.Basic
import Tabletop.Text.Ranges

/-!
# Blank characters

A blank is a white-space character: the spaces and separators of Unicode 14, the line and page
controls, and the four information separators. The zero-width space and the byte order mark are
no blanks. `Text.strip` removes blanks from both ends of a text and `Text.words` cuts a text at
its blanks.
-/

namespace Tabletop

namespace Text

def blankRanges : Ranges :=
  [(0x09, 0x0d), (0x1c, 0x20), (0x85, 0x85), (0xa0, 0xa0), (0x1680, 0x1680), (0x2000, 0x200a),
   (0x2028, 0x2029), (0x202f, 0x202f), (0x205f, 0x205f), (0x3000, 0x3000)]

def isBlank (c : Char) : Bool := blankRanges.holds c.toNat

/-- `t` without the blanks it starts with. -/
def stripStart (t : Text) : Text := t.dropWhile isBlank

/-- `t` without the blanks it ends with. -/
def stripEnd (t : Text) : Text := (t.reverse.dropWhile isBlank).reverse

/-- `t` without the blanks at either end. -/
def strip (t : Text) : Text := t.stripStart.stripEnd

/-- The longest pieces of `t` that hold no blank. -/
def words (t : Text) : List Text := (t.splitOnP isBlank).filter (· ≠ [])

end Text

end Tabletop
