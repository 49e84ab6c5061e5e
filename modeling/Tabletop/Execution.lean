import Tabletop.Board
import Tabletop.Command

/-!
# Executing commands

`Board.execute` applies one command to one robot on a board. A command that cannot be carried
out leaves the robot as it is: a placement or a step off the board, and anything but a placement
before the first placement. Only a report says something, and only of a placed robot.

`Board.execute?` stands at the edge of the library, where robot and command may be missing and
where something that is no command may be handed in. Only what is missing is refused.
-/

namespace Tabletop

/-- The robot after a command, and what it said. -/
structure Outcome where
  robot : Robot
  report : Option Text := none
  deriving DecidableEq, Repr

namespace Board

/-- The robot placed at a pose on the board; a pose off the board changes nothing. -/
def place (board : Board) (robot : Robot) (pose : Pose) : Robot :=
  if board.Holds pose.cell then .placed pose else robot

/-- The pose one step ahead, or the same pose if that step would leave the board. -/
def step (board : Board) (pose : Pose) : Pose :=
  if board.Holds (pose.cell.next pose.heading) then
    ⟨pose.cell.next pose.heading, pose.heading⟩
  else pose

/-- One command, applied to one robot. -/
def execute (board : Board) : Robot → Command → Outcome
  | robot, .place pose => ⟨board.place robot pose, none⟩
  | .unplaced, _ => ⟨.unplaced, none⟩
  | .placed pose, .move => ⟨.placed (board.step pose), none⟩
  | .placed pose, .left => ⟨.placed ⟨pose.cell, pose.heading.left⟩, none⟩
  | .placed pose, .right => ⟨.placed ⟨pose.cell, pose.heading.right⟩, none⟩
  | .placed pose, .report => ⟨.placed pose, some pose.report⟩

end Board

/-! ## Requests from outside -/

/-- What may be handed in as a command: a command, or a value of some other kind. -/
inductive Request where
  | known (command : Command)
  | foreign (kind : Text)
  deriving DecidableEq, Repr

namespace Request

/-- The canonical line of a command, the kind of any other value. -/
def label : Request → Text
  | known command => command.label
  | foreign kind => kind

/-- The label of a request, or the word that stands for none. -/
def label? : Option Request → Text
  | some request => request.label
  | none => Command.ignoredLabel

end Request

/-- A use of the library that is refused. -/
inductive Misuse where
  | noRobot
  | noCommand
  | halfPlaced
  deriving DecidableEq, Repr

namespace Misuse

def message : Misuse → Text
  | noRobot => "Engine.execute() requires a state.".toList
  | noCommand => "Engine.execute() requires a command.".toList
  | halfPlaced => "RobotState needs both position and facing, or neither.".toList

end Misuse

/-- The robot with this cell and this heading. Both or neither must be given. -/
def Robot.ofParts? : Option Cell → Option Heading → Except Misuse Robot
  | some cell, some heading => .ok (.placed ⟨cell, heading⟩)
  | none, none => .ok .unplaced
  | _, _ => .error .halfPlaced

namespace Board

/-- One request, applied to one robot. A value that is no command does nothing. -/
def execute? (board : Board) : Option Robot → Option Request → Except Misuse Outcome
  | none, _ => .error .noRobot
  | some _, none => .error .noCommand
  | some robot, some (.known command) => .ok (board.execute robot command)
  | some robot, some (.foreign _) => .ok ⟨robot, none⟩

/-- A series of requests. A refused request leaves the robot as it was. -/
def executeAll (board : Board) (robot : Option Robot) :
    List (Option Request) → List (Except Misuse Outcome)
  | [] => []
  | request :: requests =>
    match board.execute? robot request with
    | .ok outcome => .ok outcome :: board.executeAll (some outcome.robot) requests
    | .error misuse => .error misuse :: board.executeAll robot requests

end Board

end Tabletop
