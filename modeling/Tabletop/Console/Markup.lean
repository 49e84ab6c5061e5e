import Tabletop.Console.Emoji
import Tabletop.Console.Style
import Tabletop.Text.Numeral

/-!
# Markup

Text for a console may hold tags in square brackets. A tag starts with a small letter or one of
the signs `#`, `/` and `@`, and runs to the next closing bracket, with no opening bracket in
between. A tag that starts with a slash closes the style it names, or the last style if it names
none; any other tag opens a style. Backslashes in front of a tag stand for half as many, and one
that is left over makes the tag plain text. `Markup.render` gives the text that is shown, without
its tags, or the fault of a closing tag that has nothing to close. `Markup.escape` prepares a
text so that its tags are shown.

What stands behind an equals sign in a tag are its parameters. They change nothing in the text that
is shown, but a console may refuse them (`Markup.Parameters`).
-/

namespace Tabletop

namespace Markup

/-- Why marked-up text cannot be shown. -/
inductive Fault where
  /-- A closing tag for a style that is not open. -/
  | notOpen (tag : Text) (position : Nat)
  /-- A closing tag without a name when no style is open. -/
  | nothingOpen (position : Nat)
  /-- A tag with a color whose components are no numbers. -/
  | badComponent (cause : Console.BadComponent)
  /-- A tag with parameters that are refused. -/
  | refused (kind message : Text)
  deriving DecidableEq, Repr

/-- The name of the kind of fault. -/
def Fault.kind : Fault → Text
  | .badComponent _ => "ValueError".toList
  | .refused kind _ => kind
  | _ => "MarkupError".toList

def Fault.message : Fault → Text
  | .notOpen tag position =>
    "closing tag '[".toList ++ tag ++ "]' at position ".toList ++ Numeral.write position ++
      " doesn't match any open tag".toList
  | .nothingOpen position =>
    "closing tag '[/]' at position ".toList ++ Numeral.write position ++
      " has nothing to close".toList
  | .badComponent cause => cause.message
  | .refused _ message => message

/-! ## Tags -/

/-- Whether a tag may start with the character. -/
def startsTag (c : Char) : Bool :=
  'a' ≤ c && c ≤ 'z' || c == '#' || c == '/' || c == '@'

/-- The tag at the start of what follows an opening bracket, and what follows the tag. -/
def tag? (t : Text) : Option (Text × Text) :=
  match t.head?, t.dropWhile (· ≠ ']') with
  | some c, _ :: rest => if startsTag c then some (t.takeWhile (· ≠ ']'), rest) else none
  | _, _ => none

/-- The number of backslashes at the end of a text. -/
def backslashes (t : Text) : Nat := (t.reverse.takeWhile (· == '\\')).length

/-- A part of marked-up text: text to show, or a tag and the place of its bracket. -/
inductive Piece where
  | plain (text : Text)
  | tag (position : Nat) (body : Text)
  deriving DecidableEq, Repr

/-- The tag that a piece is. -/
def Piece.body? : Piece → Option Text
  | .plain _ => none
  | .tag _ body => some body

@[simp] theorem Piece.body?_plain (text : Text) : (Piece.plain text).body? = none := rfl

@[simp] theorem Piece.body?_tag (position : Nat) (body : Text) :
    (Piece.tag position body).body? = some body := rfl

/-- The pieces of marked-up text, which is given as the text `before`, starting at `position`,
and the texts that follow each opening bracket. -/
def pieces (position : Nat) (before : Text) : List Text → List Piece
  | [] => [.plain before]
  | segment :: segments =>
    match tag? segment with
    | none => pieces position (before ++ '[' :: segment) segments
    | some (body, rest) =>
      let slashes := backslashes before
      let bracket := position + before.length
      .plain (before.take (before.length - slashes)) ::
        .plain (List.replicate (slashes / 2) '\\') ::
        (if slashes % 2 = 0 then .tag bracket body else .plain ('[' :: (body ++ [']']))) ::
        pieces (bracket + body.length + 2) rest segments

/-- The pieces of a whole text. -/
def piecesOf (t : Text) : List Piece :=
  match t.splitOn '[' with
  | [] => []
  | before :: segments => pieces 0 before segments

/-- The tags of a text, in order. -/
def tags (t : Text) : List Text := (piecesOf t).filterMap Piece.body?

/-- What a console makes of the parameters of tags. -/
structure Parameters where
  /-- The fault of a text with parameters that are refused. -/
  refusal? : Text → Option Fault
  /-- Where no tag has parameters, none are refused. -/
  refusal?_eq_none : ∀ t, (∀ body ∈ tags t, '=' ∉ body) → refusal? t = none

/-- A console that takes any parameters. -/
def Parameters.any : Parameters := ⟨fun _ => none, fun _ _ => rfl⟩

/-! ## Showing marked-up text -/

/-- `t` without the backslash of every bracket that has one. -/
def dropEscapes : Text → Text
  | '\\' :: '[' :: rest => '[' :: dropEscapes rest
  | c :: rest => c :: dropEscapes rest
  | [] => []

/-- What is shown for plain text. -/
def shown (t : Text) : Text := Console.replaceEmoji (dropEscapes t)

/-- The name of a tag, which ends at an equals sign. -/
def tagName (body : Text) : Text := body.takeWhile (· ≠ '=')

/-- The style that a tag names, in its normal form. -/
def styleOf (name : Text) : Except Fault Text :=
  (Console.Style.normal name).mapError .badComponent

/-- The text that the pieces show while the styles in `stack` are open, the last one first. -/
def renderPieces (stack : List Text) : List Piece → Except Fault Text
  | [] => .ok []
  | .plain text :: others => (renderPieces stack others).map (shown text ++ ·)
  | .tag position body :: others =>
    match tagName body with
    | '/' :: name =>
      if Text.strip name = [] then
        match stack with
        | [] => .error (.nothingOpen position)
        | _ :: stack => renderPieces stack others
      else do
        let style ← styleOf (Text.strip name)
        if style ∈ stack then renderPieces (stack.erase style) others
        else .error (.notOpen body position)
    | name => do
      let style ← styleOf name
      renderPieces (style :: stack) others

/-- The controls that a console does not let through. -/
def isDropped (c : Char) : Bool := c ∈ ['\x07', '\x08', '\x0b', '\x0c', '\x0d']

/-- The text that is shown for marked-up text. -/
def render (t : Text) : Except Fault Text :=
  (renderPieces [] (piecesOf t)).map (·.filter (!isDropped ·))

/-! ## Escaping -/

/-- The escaped form of a text that is given as in `pieces`. -/
def escapeSegments (before : Text) : List Text → Text
  | [] => before
  | segment :: segments =>
    match tag? segment with
    | none => escapeSegments (before ++ '[' :: segment) segments
    | some (body, rest) =>
      before ++ List.replicate (backslashes before + 1) '\\' ++
        '[' :: (body ++ ']' :: escapeSegments rest segments)

/-- A text with its tags escaped. A single backslash at the very end is doubled. -/
def escape (t : Text) : Text :=
  let escaped :=
    match t.splitOn '[' with
    | [] => []
    | before :: segments => escapeSegments before segments
  if backslashes escaped = 1 then escaped ++ ['\\'] else escaped

end Markup

end Tabletop
