import Tabletop.Proofs.Run.Placement

/-!
# Runs that place nothing

As long as no placement is on the board, a robot that has been placed goes from pose to pose by its
steps and turns alone. `Board.drive` is what one command does to its pose, and `Board.driven` what a
series of commands does. A run whose lines place nothing on the board leaves the robot at the driven
pose after each of its steps, and it reports that pose wherever it is asked to
(`robot_of_noneLands`, `report_of_noneLands`).
-/

namespace Tabletop

namespace Board

variable {Line : Type}

/-- The pose of a placed robot after a command that places nothing on the board. -/
def drive (board : Board) (pose : Pose) : Option Command → Pose
  | some .move => board.step pose
  | some .left => ⟨pose.cell, pose.heading.left⟩
  | some .right => ⟨pose.cell, pose.heading.right⟩
  | _ => pose

/-- The pose of a placed robot after a series of such commands. -/
def driven (board : Board) (pose : Pose) (commands : List (Option Command)) : Pose :=
  commands.foldl board.drive pose

/-- None of the lines is a placement on a cell of the board. -/
def NoneLands (board : Board) (read? : Line → Option Command) (lines : List Line) : Prop :=
  ∀ line ∈ lines, board.lands (read? line) = false

instance (board : Board) (read? : Line → Option Command) (lines : List Line) :
    Decidable (board.NoneLands read? lines) :=
  inferInstanceAs (Decidable (∀ line ∈ lines, _))

@[simp] theorem driven_nil (board : Board) (pose : Pose) : board.driven pose [] = pose := rfl

@[simp] theorem driven_cons (board : Board) (pose : Pose) (command : Option Command)
    (commands : List (Option Command)) :
    board.driven pose (command :: commands) =
      board.driven (board.drive pose command) commands := rfl

theorem driven_concat (board : Board) (pose : Pose) (commands : List (Option Command))
    (command : Option Command) :
    board.driven pose (commands ++ [command]) =
      board.drive (board.driven pose commands) command := by
  rw [driven, List.foldl_append]
  rfl

theorem heading_step (board : Board) (pose : Pose) : (board.step pose).heading = pose.heading := by
  unfold step
  split <;> rfl

theorem step_of_holds {board : Board} {pose : Pose}
    (hOn : board.Holds (pose.cell.next pose.heading)) :
    board.step pose = ⟨pose.cell.next pose.heading, pose.heading⟩ := if_pos hOn

theorem step_of_not_holds {board : Board} {pose : Pose}
    (hOff : ¬ board.Holds (pose.cell.next pose.heading)) : board.step pose = pose := if_neg hOff

/-! ## One step -/

theorem holds_drive {board : Board} {pose : Pose} (hOn : board.Holds pose.cell)
    (command : Option Command) : board.Holds (board.drive pose command).cell := by
  cases command with
  | none => exact hOn
  | some command =>
    cases command with
    | move =>
      by_cases hNext : board.Holds (pose.cell.next pose.heading)
      · rw [drive, step_of_holds hNext]
        exact hNext
      · rw [drive, step_of_not_holds hNext]
        exact hOn
    | _ => exact hOn

theorem cell_drive_of_ne (board : Board) (pose : Pose) {command : Option Command}
    (hMove : command ≠ some .move) : (board.drive pose command).cell = pose.cell := by
  cases command with
  | none => rfl
  | some command =>
    cases command with
    | move => exact absurd rfl hMove
    | _ => rfl

theorem robot_executeOrSkip_placed {board : Board} {command : Option Command}
    (h : board.lands command = false) (pose : Pose) :
    (board.executeOrSkip (.placed pose) command).robot = .placed (board.drive pose command) := by
  cases command with
  | none => rfl
  | some command =>
    cases command with
    | place target =>
      have hOff : ¬ board.Holds target.cell := of_decide_eq_false h
      rw [executeOrSkip_of_transition (.refused hOff)]
      rfl
    | _ => rfl

theorem report_executeOrSkip_placed (board : Board) (pose : Pose) (command : Option Command) :
    (board.executeOrSkip (.placed pose) command).report =
      if command = some .report then some pose.report else none := by
  have hStep := transition_executeOrSkip board (.placed pose) command
  have hPlaced : (Robot.placed pose).isPlaced = true := rfl
  rw [report_eq_of_transition hStep]
  simp only [hPlaced, and_true, Robot.label]

/-! ## A run -/

theorem robotAfter_of_noneLands {board : Board} {read? : Line → Option Command}
    {lines : List Line} (h : board.NoneLands read? lines) (pose : Pose) :
    board.robotAfter read? (.placed pose) lines =
      .placed (board.driven pose (lines.map read?)) := by
  induction lines generalizing pose with
  | nil => rfl
  | cons line lines ih =>
    obtain ⟨hLine, hRest⟩ := List.forall_mem_cons.mp h
    rw [robotAfter_cons, robot_executeOrSkip_placed hLine, ih hRest, List.map_cons, driven_cons]

variable {board : Board} {read? : Line → Option Command} {number : Nat} {start : Pose}
  {lines : List Line} {k : Nat} {step : Step Line}

theorem NoneLands.take (h : board.NoneLands read? lines) (k : Nat) :
    board.NoneLands read? (lines.take k) :=
  fun line hLine => h line (List.mem_of_mem_take hLine)

theorem robot_of_noneLands (h : board.NoneLands read? lines)
    (hStep : (board.stepsFrom read? number (.placed start) lines)[k]? = some step) :
    step.robot = .placed (board.driven start ((lines.take (k + 1)).map read?)) := by
  rw [robot_of_getElem? hStep, robotAfter_of_noneLands (h.take (k + 1))]

theorem report_of_noneLands (h : board.NoneLands read? lines)
    (hStep : (board.stepsFrom read? number (.placed start) lines)[k]? = some step) :
    step.report = if read? step.line = some .report then some step.robot.label else none := by
  rw [getElem?_stepsFrom] at hStep
  obtain ⟨line, hLine, rfl⟩ := Option.map_eq_some_iff.mp hStep
  have hLands : board.lands (read? line) = false := h line (List.mem_of_getElem? hLine)
  dsimp only [Step.report, Step.robot]
  rw [robotAfter_of_noneLands (h.take k), report_executeOrSkip_placed,
    robot_executeOrSkip_placed hLands]
  split
  · rename_i hAsked
    rw [hAsked]
    rfl
  · rfl

end Board

end Tabletop
