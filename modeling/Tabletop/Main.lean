import Std.Time.Format
import Tabletop.Invocation

/-!
# The program

The outer layer looks up what surrounds an invocation: the time, the columns of the console, and
the one file or the standard input, if the invocation reads it. It then writes what the
invocation wrote and returns its exit code.
-/

namespace Tabletop

namespace Program

/-- The number that the system gives to the opening of a folder as a file. -/
def folderErrorCode : UInt32 := 21

/-- What the system says about a failure. -/
def detailOf : IO.Error → String
  | .inappropriateType _ _ detail => detail
  | .invalidArgument _ _ detail => detail
  | .permissionDenied _ _ detail => detail
  | .resourceExhausted _ _ detail => detail
  | other => other.toString

/-- Why a file could not be opened. -/
def openFailureOf : IO.Error → OpenFailure
  | .noFileOrDirectory _ _ _ => .missing
  | .inappropriateType path code detail =>
    if code = folderErrorCode then .folder
    else .refused (detailOf (.inappropriateType path code detail)).toList
  | other => .refused (detailOf other).toList

/-- The bytes of the file at a path. -/
def readFile (path : Path) : IO (Except OpenFailure ByteArray) := do
  try
    let file ← IO.FS.Handle.mk (String.ofList path.text) .read
    return .ok (← file.readBinToEnd)
  catch failure => return .error (openFailureOf failure)

/-- The standard input, read to its end. -/
def readInput : IO Input := do
  try
    return .bytes (← (← IO.getStdin).readBinToEnd)
  catch failure => return .unreadable (.plain (detailOf failure).toList)

/-- The columns of the console, as far as the surroundings tell them. -/
def columns : IO Nat := do
  let told := (← IO.getEnv "COLUMNS").bind fun text => Numeral.readLoose? text.toList
  return (told.getD Help.defaultColumns).toNat

/-- The time in universal time. -/
def stamp : IO Text := do
  let now := Std.Time.PlainDateTime.ofWallTime ((← Std.Time.Timestamp.now).toWallTime .zero)
  return (now.format "uuuu-MM-dd").toList ++ 'T' :: (now.format "HH:mm:ss.SSSSSS").toList ++ ['Z']

/-- What surrounds an invocation that reads the given source. -/
def surroundings (source : Option Text) : IO Surroundings := do
  let path := Path.ofText (source.getD [])
  let fromInput := source = some Source.inputName
  let input ← if fromInput then readInput else pure (.bytes .empty)
  let file ← if source.isNone ∨ fromInput then pure (.error .missing) else readFile path
  return { openFile := fun wanted => if wanted = path then file else .error .missing
           input := input
           styled := true
           columns := ← columns
           stamp := ← stamp }

/-- The end of one invocation, with everything written that it wrote. -/
def run (arguments : List Text) : IO Ending := do
  let ended := invoke arguments (← surroundings (Invocation.source? arguments))
  (← IO.getStdout).putStr (String.ofList ended.output)
  (← IO.getStderr).putStr (String.ofList ended.errors)
  return ended.ending

end Program

end Tabletop

/-- The program: one invocation, whose exit code it returns. -/
def main (arguments : List String) : IO UInt32 := do
  match ← Tabletop.Program.run (arguments.map String.toList) with
  | .exit code => return code.toNat.toUInt32
  | .fault cause => throw (IO.userError (String.ofList cause.message))
