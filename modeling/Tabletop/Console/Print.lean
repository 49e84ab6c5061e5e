import Tabletop.Console.CellWidth
import Tabletop.Console.Markup

/-!
# Printing messages

A message is printed as one or more lines with a line feed behind it. A console that understands
markup shows it without its tags, and with spaces up to the next multiple of eight cells for
every tab, unless it refuses their parameters; any other stream gets the message as it is.
-/

namespace Tabletop

namespace Console

/-- The distance between the places a tab can lead to. -/
def tabStop : Nat := 8

/-- The parts of a line, between its tabs, put together again with spaces for the tabs. The first
part starts at the cell `column`. -/
def joinTabs (column : Nat) : List Text → Text
  | [] => []
  | [last] => last
  | part :: next :: others =>
    let reached := column + cells (part ++ [' '])
    let stop := (reached + tabStop - 1) / tabStop * tabStop
    part ++ ' ' :: (Text.spaces (stop - reached) ++ joinTabs stop (next :: others))

/-- A line with spaces for its tabs. -/
def expandTabs (line : Text) : Text := joinTabs 0 (line.splitOn '\t')

/-- What a message looks like on a stream that understands markup, or on one that does not. -/
def print (parameters : Markup.Parameters) (styled : Bool) (message : Text) :
    Except Markup.Fault Text :=
  if styled then
    match parameters.refusal? message with
    | some cause => .error cause
    | none =>
      (Markup.render message).map fun shown =>
        Text.unlines ((shown.splitOn '\n').map expandTabs)
  else .ok (message ++ ['\n'])

end Console

end Tabletop
