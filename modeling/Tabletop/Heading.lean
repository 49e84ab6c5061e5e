import Tabletop.Text.Basic

/-!
# Headings

The four ways a robot can face, in clockwise order from north, with the quarter turns to either
side and the displacement of one step. North is up, along the second coordinate.
-/

namespace Tabletop

inductive Heading where
  | north
  | east
  | south
  | west
  deriving DecidableEq, Repr, Inhabited

namespace Heading

/-- All headings, clockwise from north. -/
def all : List Heading := [north, east, south, west]

/-- The name of a heading, in upper case. -/
def name : Heading → Text
  | north => "NORTH".toList
  | east => "EAST".toList
  | south => "SOUTH".toList
  | west => "WEST".toList

/-- The heading of that name, in any mixture of upper and lower case. -/
def ofName? (word : Text) : Option Heading := all.find? (·.name == word.upper)

/-- A quarter turn counterclockwise. -/
def left : Heading → Heading
  | north => west
  | west => south
  | south => east
  | east => north

/-- A quarter turn clockwise. -/
def right : Heading → Heading
  | north => east
  | east => south
  | south => west
  | west => north

/-- How far one step goes along the first coordinate. -/
def dx : Heading → Int
  | north => 0
  | east => 1
  | south => 0
  | west => -1

/-- How far one step goes along the second coordinate. -/
def dy : Heading → Int
  | north => 1
  | east => 0
  | south => -1
  | west => 0

@[simp] theorem right_left (h : Heading) : h.left.right = h := by cases h <;> rfl

@[simp] theorem left_right (h : Heading) : h.right.left = h := by cases h <;> rfl

theorem mem_all (h : Heading) : h ∈ all := by cases h <;> decide

end Heading

end Tabletop
