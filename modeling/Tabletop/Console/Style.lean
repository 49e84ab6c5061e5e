import Tabletop.Console.Color
import Tabletop.Text.Blank
import Tabletop.Text.LowerCase

/-!
# Styles

A style is a list of words: attributes such as `bold`, which `not` takes away, a color, a color
after `on` for the background, and a target after `link`. Styles that look the same have the
same normal form, which lists the attributes in a fixed order under their full names before the
rest. A text that is no style is its own normal form, up to case and the blanks around it.
-/

namespace Tabletop

namespace Console

/-- The attributes in their order, each with the words that stand for it, the full name first. -/
def attributeWords : List (List String) :=
  [["bold", "b"], ["dim", "d"], ["italic", "i"], ["underline", "u"], ["blink"], ["blink2"],
   ["reverse", "r"], ["conceal", "c"], ["strike", "s"], ["underline2", "uu"], ["frame"],
   ["encircle"], ["overline", "o"]]

/-- The place of the attribute that a word stands for. -/
def attribute? (word : Text) : Option Nat :=
  attributeWords.findIdx? fun names => names.any (·.toList = word)

structure Style where
  /-- The attributes that are set or taken away, by their places. -/
  attributes : List (Nat × Bool) := []
  color : Option Text := none
  background : Option Text := none
  link : Option Text := none

namespace Style

/-- The style with one attribute set or taken away, whatever was said of it before. -/
def setAttribute (style : Style) (place : Nat) (value : Bool) : Style :=
  { style with attributes := (place, value) :: style.attributes.filter (·.1 ≠ place) }

/-- The style that a list of words adds up to, on top of a style. Words that add up to no style
give `none`. -/
def ofWords? : Style → List Text → Except BadComponent (Option Style)
  | style, [] => .ok (some style)
  | style, word :: words =>
    if word.lower = "on".toList then
      match words with
      | [] => .ok none
      | color :: words => do
        if ← isColor color.lower then
          ofWords? { style with background := some color.lower } words
        else return none
    else if word.lower = "not".toList then
      match words with
      | [] => .ok none
      | name :: words =>
        match attribute? name with
        | some place => ofWords? (style.setAttribute place false) words
        | none => .ok none
    else if word.lower = "link".toList then
      match words with
      | [] => .ok none
      | target :: words => ofWords? { style with link := some target } words
    else
      match attribute? word.lower with
      | some place => ofWords? (style.setAttribute place true) words
      | none => do
        if ← isColor word.lower then ofWords? { style with color := some word.lower } words
        else return none

/-- The words of a style, in their normal order. -/
def toWords (style : Style) : List Text :=
  let named := attributeWords.zipIdx.flatMap fun (names, place) =>
    match style.attributes.lookup place, names.head? with
    | some true, some name => [name.toList]
    | some false, some name => ["not".toList, name.toList]
    | _, _ => []
  named ++ style.color.toList ++
    (match style.background with
      | some color => ["on".toList, color]
      | none => []) ++
    (match style.link with
      | some target => ["link".toList, target]
      | none => [])

/-- The style that does nothing. -/
def plain : Text := "none".toList

/-- The normal form of a style. -/
def normal (t : Text) : Except BadComponent Text :=
  if t.strip = plain then .ok plain
  else
    (ofWords? {} t.words).map fun
      | some style => if style.toWords = [] then plain else [' '].intercalate style.toWords
      | none => t.strip.lower

end Style

end Console

end Tabletop
