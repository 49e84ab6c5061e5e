import Tabletop.Options.Paragraph
import Tabletop.Options.Switch

/-!
# Usage and help

The usage shows the switches and the source in brackets, on as many lines as it takes; the source
starts a line of its own when one line is not enough. The help adds what the program does, and a
list of the source and the switches, each with its description in a second column. Everything is
laid out for a number of columns.
-/

namespace Tabletop

namespace Help

/-- The columns that are assumed when nothing is known of the console. -/
def defaultColumns : Nat := 80

/-- The width of the lines on a console with that many columns. -/
def widthOf (columns : Nat) : Nat := (if columns = 0 then defaultColumns else columns) - 2

/-- The name of the value that is the source. -/
def sourceName : Text := "commands".toList

/-! ## Usage -/

/-- The first name of a switch, and what stands for its value. -/
def briefly (switch : Switch) : Text :=
  [' '].intercalate (switch.names.take 1 ++ switch.placeholder?.toList)

def inBrackets (t : Text) : Text := '[' :: (t ++ [']'])

/-- The switches of the usage. -/
def switchParts : List Text := Switch.all.map fun switch => inBrackets (briefly switch)

/-- The source, in the usage. -/
def sourceParts : List Text := [inBrackets sourceName]

/-- Parts gathered into lines of at most `width` characters. The current line holds `line` and
has taken `used` characters; every further line starts behind `indent` characters. -/
def gather (width indent used : Nat) (line : List Text) : List Text → List (List Text)
  | [] => if line = [] then [] else [line]
  | part :: parts =>
    if width < used + part.length ∧ line ≠ [] then
      line :: gather width indent (indent + part.length + 1) [part] parts
    else gather width indent (used + part.length + 1) (line ++ [part]) parts

/-- Lines of parts behind an indent. -/
def indented (indent : Nat) (lines : List (List Text)) : List Text :=
  lines.map fun line => Text.spaces indent ++ [' '].intercalate line

/-- What the usage starts with. -/
def usageLead : Text := "usage: ".toList

/-- The lines of the usage. -/
def usageLines (width : Nat) : List Text :=
  let whole := [' '].intercalate (programName :: (switchParts ++ sourceParts))
  let start := usageLead.length
  if start + whole.length ≤ width then [usageLead ++ whole]
  else if 4 * (start + programName.length) ≤ 3 * width then
    let indent := start + programName.length + 1
    match gather width indent start [] (programName :: switchParts) with
    | [] => []
    | first :: others =>
      (usageLead ++ [' '].intercalate first) ::
        indented indent (others ++ gather width indent indent [] sourceParts)
  else
    let together := gather width start start [] (switchParts ++ sourceParts)
    let lines :=
      if together.length ≤ 1 then together
      else gather width start start [] switchParts ++ gather width start start [] sourceParts
    (usageLead ++ programName) :: indented start lines

/-! ## Help -/

/-- What the program does. -/
def purpose : Text := "Drive a simulated robot around a tabletop grid.".toList

/-- All names of a switch, each with what stands for its value. -/
def fully (switch : Switch) : Text :=
  ", ".toList.intercalate
    (switch.names.map fun name => [' '].intercalate (name :: switch.placeholder?.toList))

/-- An entry of a list: what it is about, and its description. -/
abbrev Item := Text × Text

def sourceItems : List Item :=
  [(sourceName, "Command file to run, or '-' for stdin (default: commands.txt).".toList)]

def switchItems : List Item := Switch.all.map fun switch => (fully switch, switch.description)

/-- The indent of an entry. -/
def itemIndent : Nat := 2

/-- The least width of a paragraph. -/
def leastWidth : Nat := 11

/-- Where the descriptions start. -/
def descriptionColumn (width : Nat) : Nat :=
  let longest := ((sourceItems ++ switchItems).map (·.1.length)).foldl max 0
  min (longest + itemIndent + 2) (min 24 (max (width - 20) (2 * itemIndent)))

/-- The lines of an entry. The description starts on the line of the entry if there is room. -/
def itemLines (width : Nat) (item : Item) : List Text :=
  let column := descriptionColumn width
  let description := Paragraph.lines (max (width - column) leastWidth) item.2
  let room := column - itemIndent - 2
  if item.1.length ≤ room then
    match description with
    | [] => [Text.spaces itemIndent ++ item.1]
    | first :: others =>
      (Text.spaces itemIndent ++ Text.padRight room item.1 ++ Text.spaces 2 ++ first) ::
        others.map (Text.spaces column ++ ·)
  else (Text.spaces itemIndent ++ item.1) :: description.map (Text.spaces column ++ ·)

/-- The lines of the help. -/
def helpLines (width : Nat) : List Text :=
  usageLines width ++ [] :: Paragraph.lines (max width leastWidth) purpose ++
    [] :: "positional arguments:".toList :: sourceItems.flatMap (itemLines width) ++
    [] :: "options:".toList :: switchItems.flatMap (itemLines width)

/-- The usage, for a console with the given columns. -/
def usage (columns : Nat) : Text := Text.unlines (usageLines (widthOf columns))

/-- The help, for a console with the given columns. -/
def help (columns : Nat) : Text := Text.unlines (helpLines (widthOf columns))

/-- The name and version of the program, for a console with the given columns. -/
def version (columns : Nat) : Text :=
  Text.unlines (Paragraph.lines (max (widthOf columns) leastWidth)
    (programName ++ ' ' :: programVersion))

end Help

end Tabletop
