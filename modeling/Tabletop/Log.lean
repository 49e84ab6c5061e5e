import Tabletop.Run
import Tabletop.Text.Quoted

/-!
# Log lines

A verbose run logs one line for every step and one for the whole run. A log line holds the time,
the level, the event in a column of thirty characters, the name of the logger, and the fields of
the event in the order of their names. A text in a field stands as it is, or between quotes if it
holds a space, a tab, a quote, an equals sign or the end of a line.
-/

namespace Tabletop

namespace Log

/-- The root of the names of loggers. -/
def rootName : Text := "robot_sim".toList

/-- The name of the logger. -/
def loggerName : Text := rootName ++ ".cli".toList

/-- A name and a value, as it is written. -/
abbrev Field := Text × Text

/-- The characters that make a text stand between quotes. -/
def needsQuotes (c : Char) : Bool := c ∈ [' ', '\t', '=', '\r', '\n', '"', '\'']

def ofText (t : Text) : Text := if t.any needsQuotes then t.quoted else t

def ofNat (n : Nat) : Text := Numeral.write n

def ofBool (b : Bool) : Text := if b then "True".toList else "False".toList

/-- The name of a kind of command. -/
def kind : Command → Text
  | .place _ => "Place".toList
  | .move => "Move".toList
  | .left => "TurnLeft".toList
  | .right => "TurnRight".toList
  | .report => "Report".toList

/-- One line of the log, at the time `stamp`. -/
def entry (stamp event : Text) (fields : List Field) : Text :=
  stamp ++ " [debug    ] ".toList ++ Text.padRight 30 event ++ " [".toList ++ loggerName ++
    "] ".toList ++ [' '].intercalate (fields.map fun field => field.1 ++ '=' :: field.2)

/-- The line for a step. -/
def ofStep (stamp : Text) (step : Step Text) : Text :=
  match step.command with
  | none =>
    entry stamp "command.ignored".toList
      [("line".toList, ofText step.line), ("line_number".toList, ofNat step.number)]
  | some command =>
    entry stamp "command.applied".toList
      [("command".toList, kind command), ("line_number".toList, ofNat step.number),
       ("placed".toList, ofBool step.robot.isPlaced)]

/-- The line for a whole run, of which these are the counts. -/
def ofRun (stamp : Text) (lines ignored reports : Nat) : Text :=
  entry stamp "run.complete".toList
    [("ignored".toList, ofNat ignored), ("lines".toList, ofNat lines),
     ("reports".toList, ofNat reports)]

/-- What logging a line writes. Only a verbose run logs. -/
def written (verbose : Bool) (line : Text) : Text := if verbose then line ++ ['\n'] else []

end Log

end Tabletop
