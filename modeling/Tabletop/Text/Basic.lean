/-!
# Texts

A text is the list of its characters. This file holds the few operations on texts that the
rest of the library builds on: padding to a width, changing the case of letters, and putting
lines together. The character after which a text ends is never part of it: a list of lines
becomes one text by `Text.unlines`, which ends every line with a line feed.
-/

namespace Tabletop

abbrev Text := List Char

namespace Text

/-- A run of `n` spaces. -/
def spaces (n : Nat) : Text := List.replicate n ' '

/-- `t` followed by as many spaces as it takes to reach `width` characters; a longer text is
kept whole. -/
def padRight (width : Nat) (t : Text) : Text := t ++ spaces (width - t.length)

/-- `t` after as many spaces as it takes to reach `width` characters; a longer text is kept
whole. -/
def padLeft (width : Nat) (t : Text) : Text := spaces (width - t.length) ++ t

/-- ASCII letters in upper case, every other character as it is. -/
def upper (t : Text) : Text := t.map Char.toUpper

/-- Every line ended by a line feed. -/
def unlines (lines : List Text) : Text := lines.flatMap (· ++ ['\n'])

@[simp] theorem length_spaces (n : Nat) : (spaces n).length = n := by
  simp [spaces]

@[simp] theorem length_padRight (width : Nat) (t : Text) :
    (t.padRight width).length = max width t.length := by
  simp [padRight]; omega

@[simp] theorem length_padLeft (width : Nat) (t : Text) :
    (t.padLeft width).length = max width t.length := by
  simp [padLeft]; omega

@[simp] theorem unlines_nil : unlines [] = [] := rfl

@[simp] theorem unlines_cons (line : Text) (lines : List Text) :
    unlines (line :: lines) = line ++ '\n' :: unlines lines := by
  simp [unlines]

@[simp] theorem unlines_append (first second : List Text) :
    unlines (first ++ second) = unlines first ++ unlines second := by
  simp [unlines]

end Text

end Tabletop
