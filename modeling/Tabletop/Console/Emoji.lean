import Tabletop.Console.EmojiNames
import Tabletop.Text.Blank
import Tabletop.Text.LowerCase

/-!
# Emoji codes

In text for a console, a name between two colons stands for an emoji. The name holds no blank,
its case does not matter, and `-emoji` or `-text` behind it asks for one of the two forms of
the emoji. A colon belongs to one code only, so that after a code, known or not, the next code
starts with a colon of its own.
-/

namespace Tabletop

namespace Console

/-- The selectors that ask for one of the two forms of an emoji, by the ending of the name. -/
def emojiForms : List (Text × Char) :=
  [("-emoji".toList, '\ufe0f'), ("-text".toList, '\ufe0e')]

/-- The emoji of a name, with the selector that its ending asks for. -/
def emoji? (name : Text) : Option Text :=
  match emojiForms.find? fun form => form.1.isSuffixOf name with
  | some (ending, selector) =>
    (emojiNamed? (Text.lower (name.take (name.length - ending.length)))).map (· ++ [selector])
  | none => emojiNamed? name.lower

/-- Pieces of a text that were separated by colons, each after a colon that may start a code. -/
def joinCodes : List Text → Text
  | [] => []
  | [last] => ':' :: last
  | name :: next :: others =>
    if name.any Text.isBlank then ':' :: (name ++ joinCodes (next :: others))
    else (emoji? name).getD (':' :: (name ++ [':'])) ++ next ++ joinCodes others

/-- `t` with an emoji for every code that stands for one. -/
def replaceEmoji (t : Text) : Text :=
  match t.splitOn ':' with
  | [] => []
  | first :: others => first ++ joinCodes others

end Console

end Tabletop
