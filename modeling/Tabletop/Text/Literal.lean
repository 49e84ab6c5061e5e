import Tabletop.Text.Decimal
import Tabletop.Text.Numeral
import Tabletop.Text.Quoted

/-!
# Literals

A value of any kind that may turn up where a number was expected, and the way a message shows
it: whole numbers in decimal, fractions by their shortest decimal, texts between quotes, and
collections in brackets with their parts separated by commas.
-/

namespace Tabletop

inductive Literal where
  | absent
  | truth (value : Bool)
  | whole (value : Int)
  | fraction (bits : UInt64)
  | text (value : Text)
  | sequence (items : List Literal)
  | mapping (entries : List (Text × Literal))
  deriving Inhabited

namespace Literal

mutual

/-- The way a message shows a value. -/
def write : Literal → Text
  | absent => "None".toList
  | truth true => "True".toList
  | truth false => "False".toList
  | whole value => Numeral.write value
  | fraction bits => writeFraction bits
  | text value => value.quoted
  | sequence items => '[' :: (writeItems items ++ [']'])
  | mapping entries => '\x7b' :: (writeEntries entries ++ ['\x7d'])

/-- The items of a sequence, separated by commas. -/
def writeItems : List Literal → Text
  | [] => []
  | [item] => write item
  | item :: items => write item ++ ", ".toList ++ writeItems items

/-- The entries of a mapping, each as key and value, separated by commas. -/
def writeEntries : List (Text × Literal) → Text
  | [] => []
  | [(key, value)] => key.quoted ++ ": ".toList ++ write value
  | (key, value) :: entries =>
    key.quoted ++ ": ".toList ++ write value ++ ", ".toList ++ writeEntries entries

end

end Literal

end Tabletop
