import Tabletop.Options.Argument
import Tabletop.Text.Literal
import Tabletop.Text.LooseNumeral

/-!
# The options of an invocation

The arguments are taken from left to right. A request for help or for the version ends the
reading at once. The first value that belongs to no switch is the source of the lines; whatever
nothing asks for is kept, and is an error once all arguments have been taken.
-/

namespace Tabletop

/-- What a run is asked to do. -/
structure Settings where
  source : Text
  width : Literal
  height : Literal
  trace : Bool
  verbose : Bool

/-- What an invocation is asked to do. -/
inductive Directive where
  | run (settings : Settings)
  | help
  | version

namespace Options

def defaultSource : Text := "commands.txt".toList

def defaultWidth : Int := 5

def defaultHeight : Int := 5

/-- The arguments that have been taken. -/
structure Reading where
  source : Option Text := none
  width : Literal := .whole defaultWidth
  height : Literal := .whole defaultHeight
  trace : Bool := false
  verbose : Bool := false
  /-- What nothing asked for, in order. -/
  leftover : List Text := []

namespace Reading

def keep (reading : Reading) (t : Text) : Reading :=
  { reading with leftover := reading.leftover ++ [t] }

/-- A value that belongs to no switch. -/
def takeValue (reading : Reading) (t : Text) : Reading :=
  match reading.source with
  | none => { reading with source := some t }
  | some _ => reading.keep t

/-- The number that a switch takes. A separator attached to a switch is dropped, and leaves an
empty list of values. -/
def takeNumber (reading : Reading) (switch : Switch) (t : Text) : Except UsageError Reading := do
  let number ←
    if t = Argument.separatorText then .ok (.sequence [])
    else
      match Numeral.readLoose? t with
      | some n => .ok (.whole n)
      | none => .error (.notNumber switch t)
  return match switch with
    | .width => { reading with width := number }
    | .height => { reading with height := number }
    | _ => reading

/-- A series of switches that take no value. The first request for help or for the version is
all that counts. -/
def takeSwitches (reading : Reading) : List Switch → Reading ⊕ Directive
  | [] => .inl reading
  | .help :: _ => .inr .help
  | .version :: _ => .inr .version
  | .trace :: switches => takeSwitches { reading with trace := true } switches
  | .verbose :: switches => takeSwitches { reading with verbose := true } switches
  | _ :: switches => takeSwitches reading switches

/-- What the arguments ask for once all of them have been taken. -/
def finish (reading : Reading) : Except UsageError Directive :=
  if reading.leftover = [] then
    .ok (.run ⟨reading.source.getD defaultSource, reading.width, reading.height, reading.trace,
      reading.verbose⟩)
  else .error (.unrecognized reading.leftover)

end Reading

/-- The switches of a bundle: a switch and the text attached to its letter, every character of
which must be the letter of a further switch. -/
def bundle (switch : Switch) : Text → Except UsageError (List Switch)
  | [] => .ok [switch]
  | c :: rest =>
    match Switch.ofLetter? c with
    | some next => (bundle next rest).map (switch :: ·)
    | none => .error (.unexpectedValue switch (c :: rest))

/-- The switches that are given at once by one argument. -/
def switchesOf (switch : Switch) (byLetter : Bool) : Option Text → Except UsageError (List Switch)
  | none => .ok [switch]
  | some attached =>
    if byLetter ∧ attached ≠ [] then bundle switch attached
    else .error (.unexpectedValue switch attached)

/-- What the arguments ask for, after those that `reading` has taken. -/
def readArguments (reading : Reading) : List Argument → Except UsageError Directive
  | [] => reading.finish
  | .value t :: arguments =>
    match reading.source, arguments with
    | none, .separator :: arguments => readArguments (reading.takeValue t) arguments
    | _, arguments => readArguments (reading.takeValue t) arguments
  | .separator :: arguments =>
    match reading.source with
    | none => readArguments reading arguments
    | some _ => readArguments (reading.keep Argument.separatorText) arguments
  | .unknown t :: arguments => readArguments (reading.keep t) arguments
  | .switch switch byLetter attached :: arguments =>
    if switch.takesValue then
      match attached, arguments with
      | some t, arguments => do readArguments (← reading.takeNumber switch t) arguments
      | none, .value t :: arguments => do
        readArguments (← reading.takeNumber switch t) arguments
      | none, _ => .error (.missingValue switch)
    else
      match switchesOf switch byLetter attached with
      | .error cause => .error cause
      | .ok switches =>
        match reading.takeSwitches switches with
        | .inl reading => readArguments reading arguments
        | .inr directive => .ok directive

/-- What the arguments of an invocation ask for. -/
def read (arguments : List Text) : Except UsageError Directive := do
  readArguments {} (← Argument.ofTexts arguments)

end Options

end Tabletop
