import Tabletop.Run

/-!
# Guarded runs

`Board.run` cannot fail: its robots are whole, its commands are there, and it writes integers of any
size. A guarded run relies on none of this. It hands the executor what may be missing, puts every
robot together from a cell and a heading, and writes numerals of at most `Numeral.digitLimit`
digits. The first of these that goes wrong ends it, behind the steps it has taken by then.
-/

namespace Tabletop

/-- What ends a guarded run before its lines are done. -/
inductive RunFailure where
  | misuse (misuse : Misuse)
  /-- A number with too many digits to be written. -/
  | numeral
  deriving DecidableEq, Repr

/-! ## Writing within the limit -/

/-- The report of a pose, unless a coordinate has too many digits. -/
def Pose.write? (pose : Pose) : Option Text := do
  let x ← Numeral.write? pose.cell.x
  let y ← Numeral.write? pose.cell.y
  return x ++ ',' :: (y ++ ',' :: pose.heading.name)

/-- The label of a robot, unless a coordinate has too many digits. -/
def Robot.write? : Robot → Option Text
  | unplaced => some unplacedLabel
  | placed pose => pose.write?

/-- The label of a command or of none, unless a coordinate has too many digits. -/
def Command.write? : Option Command → Option Text
  | some (place pose) => pose.write?.map ("PLACE ".toList ++ ·)
  | some command => some command.label
  | none => some ignoredLabel

@[simp] theorem Command.write?_place (pose : Pose) :
    write? (some (place pose)) = pose.write?.map ("PLACE ".toList ++ ·) := rfl

namespace Board

variable {Line : Type}

/-! ## One step -/

/-- A robot put together from a cell and a heading, which says nothing. -/
def assemble (cell : Option Cell) (heading : Option Heading) : Except RunFailure Outcome :=
  match Robot.ofParts? cell heading with
  | .ok robot => .ok ⟨robot, none⟩
  | .error misuse => .error (.misuse misuse)

/-- A robot that stays where it is and reports. -/
def announce (pose : Pose) : Except RunFailure Outcome :=
  pose.write?.elim (.error .numeral) fun report => .ok ⟨.placed pose, some report⟩

/-- One request, with everything that can go wrong at it. -/
def executeGuarded (board : Board) : Option Robot → Option Request → Except RunFailure Outcome
  | none, _ => .error (.misuse .noRobot)
  | some _, none => .error (.misuse .noCommand)
  | some robot, some (.foreign _) => .ok ⟨robot, none⟩
  | some robot, some (.known (.place pose)) =>
    if board.Holds pose.cell then assemble (some pose.cell) (some pose.heading)
    else .ok ⟨robot, none⟩
  | some .unplaced, some (.known _) => .ok ⟨.unplaced, none⟩
  | some (.placed pose), some (.known .move) =>
    if board.Holds (pose.cell.next pose.heading) then
      assemble (some (pose.cell.next pose.heading)) (some pose.heading)
    else .ok ⟨.placed pose, none⟩
  | some (.placed pose), some (.known .left) => assemble (some pose.cell) (some pose.heading.left)
  | some (.placed pose), some (.known .right) =>
    assemble (some pose.cell) (some pose.heading.right)
  | some (.placed pose), some (.known .report) => announce pose

/-- A command handed to the executor, or nothing. -/
def executeOrSkipGuarded (board : Board) (robot : Robot) :
    Option Command → Except RunFailure Outcome
  | some command => board.executeGuarded (some robot) (some (.known command))
  | none => .ok ⟨robot, none⟩

/-! ## Runs -/

/-- The steps of a guarded run over `lines` whose first line has the given number, and what ended
the run before its lines were done, if anything did. -/
def stepsGuarded (board : Board) (read? : Line → Option Command) :
    Nat → Robot → List Line → List (Step Line) × Option RunFailure
  | _, _, [] => ([], none)
  | number, robot, line :: lines =>
    match board.executeOrSkipGuarded robot (read? line) with
    | .error failure => ([], some failure)
    | .ok outcome =>
      let (steps, failure) := board.stepsGuarded read? (number + 1) outcome.robot lines
      (⟨number, line, read? line, outcome⟩ :: steps, failure)

/-- A guarded run over texts from a robot that has not been placed. -/
def runGuarded (board : Board) (lines : List Text) : List (Step Text) × Option RunFailure :=
  board.stepsGuarded Command.ofLine? 1 .unplaced lines

end Board

end Tabletop
