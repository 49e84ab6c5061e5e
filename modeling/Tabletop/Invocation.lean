import Tabletop.Options
import Tabletop.Options.Help
import Tabletop.Session
import Tabletop.Source
import Tabletop.Trace.Boxed
import Tabletop.Trace.Plain

/-!
# Invocations

An invocation is a function of its arguments and of what surrounds it: the files, the standard
input and the console. It ends with an exit code, after writing reports to the standard output
and everything else to the standard error. The board is made before the source is read, and the
whole source is read before the first line is executed, so that a failed invocation has reported
nothing.

What goes wrong is told on the standard error, in marked-up text. A message is not escaped, and
so may itself hold markup; if that markup is at fault, or the console refuses the parameters of a
tag in it, the invocation ends with no exit code.
-/

namespace Tabletop

/-- What surrounds an invocation. -/
structure Surroundings where
  /-- The bytes of the file at a path. -/
  openFile : Path → Except OpenFailure ByteArray
  /-- The standard input. -/
  input : Input
  /-- Whether messages go to a console that understands markup. -/
  styled : Bool
  /-- What such a console makes of the parameters of tags. -/
  parameters : Markup.Parameters := .any
  /-- The columns of the console. -/
  columns : Nat
  /-- The time that log lines show. -/
  stamp : Text

inductive ExitCode where
  | success
  | failure
  | unexpected
  | interrupted
  deriving DecidableEq, Repr

namespace ExitCode

/-- All exit codes. Misused arguments end with the code of an unexpected failure. -/
def all : List ExitCode := [success, failure, unexpected, interrupted]

def toNat : ExitCode → Nat
  | success => 0
  | failure => 1
  | unexpected => 2
  | interrupted => 130

end ExitCode

/-- How an invocation ends. -/
inductive Ending where
  | exit (code : ExitCode)
  /-- A message could not be shown. -/
  | fault (cause : Markup.Fault)
  deriving DecidableEq, Repr

/-- An invocation that has ended, with what it wrote. -/
structure Ended where
  ending : Ending
  output : Text
  errors : Text
  deriving DecidableEq, Repr

/-- What can go wrong in a run. -/
inductive Trouble where
  | board (sides : Board.BadSides)
  | source (failure : SourceFailure)
  | crash (crash : Crash)
  | interrupted

namespace Trouble

/-- The trouble with a source. -/
def ofRead : ReadFailure → Trouble
  | .source failure => source failure
  | .crash cause => crash cause
  | .interrupted => interrupted

/-- A foreseen failure, with a hint if there is one. -/
def foreseen (message : Text) (hint : Option Text) : List Text :=
  ("[bold red]Error:[/bold red] ".toList ++ message) ::
    (hint.map ("[yellow]Hint:[/yellow] ".toList ++ ·)).toList

/-- The messages that tell the trouble, one printed after the other. -/
def messages : Trouble → List Text
  | board sides => foreseen sides.message (some Board.BadSides.hint)
  | source failure => foreseen failure.message failure.hint?
  | crash cause =>
    ["[bold red]Unexpected error.[/bold red] Please report this issue.\n  ".toList ++
      cause.kind ++ ": ".toList ++ cause.message]
  | interrupted => ["\n[yellow]Aborted by user.[/yellow]".toList]

def exitCode : Trouble → ExitCode
  | board _ => .failure
  | source _ => .failure
  | crash _ => .unexpected
  | interrupted => .interrupted

end Trouble

namespace Invocation

/-- What printing the messages writes, up to the first that cannot be shown. -/
def printAll (parameters : Markup.Parameters) (styled : Bool) :
    List Text → Text × Option Markup.Fault
  | [] => ([], none)
  | message :: messages =>
    match Console.print parameters styled message with
    | .error cause => ([], some cause)
    | .ok shown =>
      let (others, cause) := printAll parameters styled messages
      (shown ++ others, cause)

/-- The end of a run that met trouble, after what it wrote before. -/
def endWith (around : Surroundings) (output errors : Text) (trouble : Trouble) : Ended :=
  match printAll around.parameters around.styled trouble.messages with
  | (shown, none) => ⟨.exit trouble.exitCode, output, errors ++ shown⟩
  | (shown, some cause) => ⟨.fault cause, output, errors ++ shown⟩

/-- The trace of a run, for the console or for any other stream. -/
def traceOf (styled : Bool) (steps : List (Step Text)) : Except Markup.Fault Text :=
  if styled then Trace.boxed steps else .ok (Trace.plain steps)

/-- The end of a run whose lines have been read. -/
def finish (settings : Settings) (around : Surroundings) (steps : List (Step Text)) : Ended :=
  let session := Session.ofSteps settings.verbose around.stamp steps
  if settings.trace then
    match traceOf around.styled steps with
    | .ok trace => ⟨.exit .success, session.output, session.logged ++ trace⟩
    | .error cause =>
      endWith around session.output session.logged (.crash ⟨cause.kind, cause.message⟩)
  else ⟨.exit .success, session.output, session.logged⟩

/-- A run with the given settings. -/
def run (settings : Settings) (around : Surroundings) : Ended :=
  match Board.ofLiterals? settings.width settings.height with
  | .error sides => endWith around [] [] (.board sides)
  | .ok board =>
    match Source.read around.openFile around.input settings.source with
    | .error cause => endWith around [] [] (.ofRead cause)
    | .ok lines => finish settings around (board.run lines)

/-- What is told about arguments that are misused. -/
def usageMessage (columns : Nat) (cause : UsageError) : Text :=
  Help.usage columns ++ programName ++ ": error: ".toList ++ cause.message ++ ['\n']

/-- The source that an invocation reads, if it gets that far. -/
def source? (arguments : List Text) : Option Text :=
  match Options.read arguments with
  | .ok (.run settings) =>
    match Board.ofLiterals? settings.width settings.height with
    | .ok _ => some settings.source
    | .error _ => none
  | _ => none

end Invocation

/-- The end of an invocation with the given arguments. -/
def invoke (arguments : List Text) (around : Surroundings) : Ended :=
  match Options.read arguments with
  | .error cause => ⟨.exit .unexpected, [], Invocation.usageMessage around.columns cause⟩
  | .ok .help => ⟨.exit .success, Help.help around.columns, []⟩
  | .ok .version => ⟨.exit .success, Help.version around.columns, []⟩
  | .ok (.run settings) => Invocation.run settings around

end Tabletop
