import Tabletop.Text.Basic
import Tabletop.Text.Printable

/-!
# Quoted texts

A quoted text stands between two quotes of one kind. They are apostrophes, unless the text holds
an apostrophe and no double quote. Inside, a backslash and the quote in use stand after a
backslash, the tab and the two line controls are written with a letter, and every other
unprintable character by its code point in two, four or eight hexadecimal digits.
-/

namespace Tabletop

namespace Text

/-- The quote that `t` is written between. -/
def quoteFor (t : Text) : Char := if '\'' ∈ t ∧ '"' ∉ t then '"' else '\''

/-- A code point in the least of the widths two, four and eight that holds it. -/
def escapeCode (codePoint : Nat) : Text :=
  let digits := Nat.toDigits 16 codePoint
  let padded (width : Nat) : Text := List.replicate (width - digits.length) '0' ++ digits
  if codePoint < 0x100 then '\\' :: 'x' :: padded 2
  else if codePoint < 0x10000 then '\\' :: 'u' :: padded 4
  else '\\' :: 'U' :: padded 8

/-- How a character is written between quotes of the given kind. -/
def escapeChar (quote c : Char) : Text :=
  if c = '\\' ∨ c = quote then ['\\', c]
  else if c = '\t' then ['\\', 't']
  else if c = '\n' then ['\\', 'n']
  else if c = '\r' then ['\\', 'r']
  else if isPrintable c then [c]
  else escapeCode c.toNat

/-- The text between quotes. -/
def quoted (t : Text) : Text :=
  t.quoteFor :: (t.flatMap (escapeChar t.quoteFor) ++ [t.quoteFor])

end Text

end Tabletop
