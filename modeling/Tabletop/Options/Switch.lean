import Tabletop.Text.Basic

/-!
# Switches

The switches of the command line, with their names and the words that describe them. Every
switch has a long name; some have a letter besides. Two switches take a value, which is a number.
-/

namespace Tabletop

/-- The name of the program. -/
def programName : Text := "robot-sim".toList

/-- The version of the program. -/
def programVersion : Text := "1.0.0".toList

inductive Switch where
  | help
  | version
  | width
  | height
  | trace
  | verbose
  deriving DecidableEq, Repr

namespace Switch

/-- All switches, in the order of the help text. -/
def all : List Switch := [help, version, width, height, trace, verbose]

/-- The long name, with its dashes. -/
def long : Switch → Text
  | help => "--help".toList
  | version => "--version".toList
  | width => "--width".toList
  | height => "--height".toList
  | trace => "--trace".toList
  | verbose => "--verbose".toList

/-- The letter that stands for the switch after a single dash. -/
def letter? : Switch → Option Char
  | help => some 'h'
  | version => some 'V'
  | verbose => some 'v'
  | _ => none

/-- The switch of a letter. -/
def ofLetter? (c : Char) : Option Switch := all.find? (·.letter? == some c)

/-- The switch of a long name. -/
def ofLong? (name : Text) : Option Switch := all.find? (·.long == name)

/-- All names, with the letter first. -/
def names (switch : Switch) : List Text :=
  (switch.letter?.map (['-', ·])).toList ++ [switch.long]

/-- What stands for the value of a switch that takes one. -/
def placeholder? : Switch → Option Text
  | width => some "WIDTH".toList
  | height => some "HEIGHT".toList
  | _ => none

/-- Whether the switch takes a value. -/
def takesValue (switch : Switch) : Bool := switch.placeholder?.isSome

/-- What the switch does. -/
def description : Switch → Text
  | help => "show this help message and exit".toList
  | version => "show program's version number and exit".toList
  | width => "Board width in cells (default: 5).".toList
  | height => "Board height in cells (default: 5).".toList
  | trace => "Print a table of every command and the resulting state to stderr.".toList
  | verbose => "Log each command to stderr.".toList

end Switch

end Tabletop
