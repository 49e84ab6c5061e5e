import Tabletop.Options.Switch
import Tabletop.Text.DecimalDigit
import Tabletop.Text.Numeral
import Tabletop.Text.Quoted

/-!
# Arguments

Before anything else, every argument of the command line is told apart: a value, a switch, a
switch nobody knows, or the separator `--`, after which all is a value. A switch is given by its
letter after one dash, by its long name, or by a beginning of its long name that fits no other.
A value may be attached to a long name by an equals sign, and to a letter directly. A negative
number, an argument with a space in it and a lone dash are values, although they start with a
dash.
-/

namespace Tabletop

/-- What is wrong with the arguments. -/
inductive UsageError where
  /-- A beginning of several long names. -/
  | ambiguous (given : Text) (candidates : List Text)
  /-- A value attached to a switch that takes none. -/
  | unexpectedValue (switch : Switch) (value : Text)
  /-- A switch without the value it takes. -/
  | missingValue (switch : Switch)
  /-- A value that is no number. -/
  | notNumber (switch : Switch) (value : Text)
  /-- Arguments that nothing asks for. -/
  | unrecognized (arguments : List Text)
  deriving DecidableEq, Repr

namespace UsageError

/-- The names of a switch, in an error message. -/
def switchNames (switch : Switch) : Text :=
  "argument ".toList ++ ['/'].intercalate switch.names ++ ": ".toList

def message : UsageError → Text
  | ambiguous given candidates =>
    "ambiguous option: ".toList ++ given ++ " could match ".toList ++
      ", ".toList.intercalate candidates
  | unexpectedValue switch value =>
    switchNames switch ++ "ignored explicit argument ".toList ++ value.quoted
  | missingValue switch => switchNames switch ++ "expected one argument".toList
  | notNumber switch value => switchNames switch ++ "invalid int value: ".toList ++ value.quoted
  | unrecognized arguments =>
    "unrecognized arguments: ".toList ++ [' '].intercalate arguments

end UsageError

inductive Argument where
  | value (text : Text)
  /-- A switch, given by its long name or by its letter, and what was attached to it. -/
  | switch (switch : Switch) (byLetter : Bool) (attached : Option Text)
  | unknown (text : Text)
  | separator
  deriving DecidableEq, Repr

namespace Argument

/-- The text that separates switches from values. -/
def separatorText : Text := ['-', '-']

/-- Whether a text is a negative number: a dash, and digits with at most one point before some of
them. A line feed may follow. -/
def isNegativeNumber (t : Text) : Bool :=
  let isDigit (c : Char) : Bool := (Text.digitValue? c).isSome
  match t with
  | '-' :: rest =>
    let body := if rest.getLast? = some '\n' then rest.dropLast else rest
    let behind := body.dropWhile isDigit
    body ≠ [] && (behind = [] ||
      (behind.head? == some '.' && behind.length > 1 && (behind.drop 1).all isDigit))
  | _ => false

/-- The name and the attached value of a text, which an equals sign separates. -/
def splitValue (t : Text) : Text × Option Text :=
  match t.dropWhile (· ≠ '=') with
  | [] => (t, none)
  | _ :: attached => (t.takeWhile (· ≠ '='), some attached)

/-- The switch with that name, and whether the name is its letter. -/
def named? : Text → Option (Switch × Bool)
  | ['-', c] => (Switch.ofLetter? c).map (·, true)
  | name => (Switch.ofLong? name).map (·, false)

/-- A text with a dash in front that is the name of no switch. -/
def unnamed (t : Text) : Argument :=
  if isNegativeNumber t ∨ ' ' ∈ t then .value t else .unknown t

/-- A text that starts with one dash, and is neither a name nor a name with a value. -/
def ofLetters (t : Text) : Argument :=
  match t with
  | _ :: c :: attached =>
    match Switch.ofLetter? c with
    | some meant => .switch meant true (some attached)
    | none => unnamed t
  | _ => unnamed t

/-- A text that starts with two dashes, and is neither a name nor a name with a value. -/
def ofBeginning (t : Text) : Except UsageError Argument :=
  let (name, attached) := splitValue t
  match Switch.all.filter (name.isPrefixOf ·.long) with
  | [] => .ok (unnamed t)
  | [meant] => .ok (.switch meant false attached)
  | several => .error (.ambiguous t (several.map Switch.long))

/-- What an argument is, unless it stands behind the separator. -/
def ofText (t : Text) : Except UsageError Argument :=
  match t with
  | '-' :: c :: _ =>
    match named? t, named? (splitValue t).1, (splitValue t).2 with
    | some (meant, byLetter), _, _ => .ok (.switch meant byLetter none)
    | none, some (meant, byLetter), some attached =>
      .ok (.switch meant byLetter (some attached))
    | none, _, _ => if c = '-' then ofBeginning t else .ok (ofLetters t)
  | _ => .ok (.value t)

/-- What the arguments are. -/
def ofTexts : List Text → Except UsageError (List Argument)
  | [] => .ok []
  | t :: ts =>
    if t = separatorText then .ok (.separator :: ts.map .value)
    else do return (← ofText t) :: (← ofTexts ts)

end Argument

end Tabletop
