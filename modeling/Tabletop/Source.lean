import Tabletop.Source.Folder
import Tabletop.Text.Lines
import Tabletop.Text.Numeral

/-!
# Sources of lines

The lines of a run come from a file or, for the source `-`, from the standard input. The whole
source is read before the first line is used. A file may start with one byte order mark; the
standard input may not. Of a text that comes from bytes, every line break is turned into a line
feed before the text is cut into lines; a stream of characters is cut as it is.

Whatever goes wrong with the file or the stream is a `SourceFailure`, with a message and perhaps a
hint. Two things are no such failure: a path with a null character in it, which cannot name a file
at all, and a stream that fails in some other way.
-/

namespace Tabletop

/-- A failure that is not foreseen, by its kind and its message. -/
structure Crash where
  kind : Text
  message : Text
  deriving DecidableEq, Repr

/-- What the system says about a stream that cannot be read. -/
inductive SystemDetail where
  | silent
  | plain (text : Text)
  | coded (code : Int) (text : Text)
  deriving DecidableEq, Repr

/-- The words of the system, after its number for the failure if it gave one. -/
def SystemDetail.message : SystemDetail → Text
  | silent => []
  | plain text => text
  | coded code text => "[Errno ".toList ++ Numeral.write code ++ ']' :: ' ' :: text

/-- The standard input. -/
inductive Input where
  /-- A stream of bytes, which encode a text. -/
  | bytes (bytes : ByteArray)
  /-- A stream of characters. -/
  | text (text : Text)
  /-- A stream that the system cannot read. -/
  | unreadable (detail : SystemDetail)
  /-- A stream that fails in some other way. -/
  | crashing (crash : Crash)
  /-- A stream whose reading the user breaks off. -/
  | interrupted

/-- Why a source has no lines. -/
inductive SourceFailure where
  | missing (path : Text)
  | folder (path : Text)
  | encoding (path : Text)
  | refused (path reason : Text)
  | inputEncoding
  | inputRefused (detail : SystemDetail)
  deriving DecidableEq, Repr

namespace SourceFailure

def message : SourceFailure → Text
  | missing path => "Command file '".toList ++ path ++ "' not found.".toList
  | folder path => "Command source '".toList ++ path ++ "' is a directory, not a file.".toList
  | encoding path => "Command file '".toList ++ path ++ "' is not valid UTF-8.".toList
  | refused path reason =>
    "Could not read command file '".toList ++ path ++ "': ".toList ++ reason
  | inputEncoding => "Standard input is not valid UTF-8.".toList
  | inputRefused detail => "Could not read standard input: ".toList ++ detail.message

def hint? : SourceFailure → Option Text
  | missing _ => some "Pass a path to an existing file, or '-' to read stdin.".toList
  | encoding _ => some "Save the file with UTF-8 encoding and try again.".toList
  | _ => none

/-- The failure to open the file at a path. -/
def ofOpen (path : Text) : OpenFailure → SourceFailure
  | .missing => .missing path
  | .folder => .folder path
  | .refused reason => .refused path reason

end SourceFailure

/-- How reading a source can end without lines. -/
inductive ReadFailure where
  | source (failure : SourceFailure)
  | crash (crash : Crash)
  | interrupted
  deriving DecidableEq, Repr

namespace Source

/-- The source that stands for the standard input. -/
def inputName : Text := ['-']

/-- A null character cannot stand in the path of a file. -/
def nullInPath : Crash := ⟨"ValueError".toList, "embedded null byte".toList⟩

/-- The lines of the standard input. -/
def readInput : Input → Except ReadFailure (List Text)
  | .bytes bytes =>
    match Utf8.decode? bytes with
    | some text => .ok text.lineFeeds.lines
    | none => .error (.source .inputEncoding)
  | .text text => .ok text.lines
  | .unreadable detail => .error (.source (.inputRefused detail))
  | .crashing crash => .error (.crash crash)
  | .interrupted => .error .interrupted

/-- The lines of the file at a path. -/
def readFile (openFile : Path → Except OpenFailure ByteArray) (path : Path) :
    Except ReadFailure (List Text) :=
  if '\x00' ∈ path.text then .error (.crash nullInPath)
  else
    match openFile path with
    | .error failure => .error (.source (.ofOpen path.text failure))
    | .ok bytes =>
      match Utf8.decodeMarked? bytes with
      | some text => .ok text.lineFeeds.lines
      | none => .error (.source (.encoding path.text))

/-- The lines of a source. -/
def read (openFile : Path → Except OpenFailure ByteArray) (input : Input) (source : Text) :
    Except ReadFailure (List Text) :=
  if source = inputName then readInput input else readFile openFile (Path.ofText source)

end Source

end Tabletop
