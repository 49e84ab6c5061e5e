import Tabletop.Heading
import Tabletop.Text.Numeral

/-!
# Cells, poses and robots

A cell is a place on the unbounded integer grid; `(0, 0)` is the south-west corner of every
board. A pose is a cell together with a heading. A robot either has not been placed yet or has
a pose, so that a robot with a cell but no heading does not exist.
-/

namespace Tabletop

structure Cell where
  x : Int
  y : Int
  deriving DecidableEq, Repr, Inhabited

namespace Cell

/-- The cell `dx` to the east and `dy` to the north. -/
def shift (cell : Cell) (dx dy : Int) : Cell := ⟨cell.x + dx, cell.y + dy⟩

/-- The neighbouring cell in the direction of the heading. -/
def next (cell : Cell) (heading : Heading) : Cell := cell.shift heading.dx heading.dy

/-- The cells reached by one displacement after another, each displacement from the cell before
it. -/
def path (cell : Cell) : List (Int × Int) → List Cell
  | [] => []
  | (dx, dy) :: others => cell.shift dx dy :: path (cell.shift dx dy) others

end Cell

structure Pose where
  cell : Cell
  heading : Heading
  deriving DecidableEq, Repr, Inhabited

namespace Pose

/-- The two coordinates and the name of the heading, with commas between them. -/
def report (pose : Pose) : Text :=
  Numeral.write pose.cell.x ++ ',' :: (Numeral.write pose.cell.y ++ ',' :: pose.heading.name)

end Pose

inductive Robot where
  | unplaced
  | placed (pose : Pose)
  deriving DecidableEq, Repr, Inhabited

namespace Robot

/-- The pose of a robot that has been placed. -/
def pose? : Robot → Option Pose
  | unplaced => none
  | placed pose => some pose

def isPlaced (robot : Robot) : Bool := robot.pose?.isSome

/-- What stands for a robot that has not been placed. -/
def unplacedLabel : Text := "unplaced".toList

/-- The report of a placed robot, a fixed word for the other. -/
def label : Robot → Text
  | unplaced => unplacedLabel
  | placed pose => pose.report

end Robot

end Tabletop
