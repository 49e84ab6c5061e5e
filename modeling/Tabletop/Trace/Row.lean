import Tabletop.Run

/-!
# Rows of a trace

A trace shows one row for every step of a run: the number of the line, the line without the
blanks around it, what it was read as, the robot after it, and what the robot said.
-/

namespace Tabletop

namespace Trace

structure Row where
  number : Text
  input : Text
  command : Text
  robot : Text
  output : Text
  deriving DecidableEq, Repr

/-- The row of a step. -/
def row (step : Step Text) : Row where
  number := Numeral.write step.number
  input := step.line.strip
  command := Command.label? step.command
  robot := step.robot.label
  output := step.report.getD []

def title : Text := "robot-sim trace".toList

/-- The headings of the columns. -/
def headings : Row where
  number := "#".toList
  input := "Input".toList
  command := "Command".toList
  robot := "State".toList
  output := "Output".toList

end Trace

end Tabletop
