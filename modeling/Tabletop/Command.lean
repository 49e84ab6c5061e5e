import Tabletop.Robot

/-!
# Commands

The five commands a robot understands, and the canonical line that stands for each.
-/

namespace Tabletop

inductive Command where
  | place (pose : Pose)
  | move
  | left
  | right
  | report
  deriving DecidableEq, Repr, Inhabited

namespace Command

/-- What stands for a line that is no command. -/
def ignoredLabel : Text := "ignored".toList

/-- The canonical line of a command. -/
def label : Command → Text
  | place pose => "PLACE ".toList ++ pose.report
  | move => "MOVE".toList
  | left => "LEFT".toList
  | right => "RIGHT".toList
  | report => "REPORT".toList

/-- The canonical line of a command, or the word for a line that is none. -/
def label? : Option Command → Text
  | some command => command.label
  | none => ignoredLabel

end Command

end Tabletop
