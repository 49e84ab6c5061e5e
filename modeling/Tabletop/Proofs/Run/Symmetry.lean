import Mathlib.Data.List.Forall2
import Tabletop.Proofs.Run.OnBoard

/-!
# Symmetries of boards

A symmetry maps cells and headings such that a cell is on one board exactly if its image is on the
other, and a step ahead of the image is the image of a step ahead. It keeps left and right apart, or
swaps them. Every transition on the one board then has an image on the other
(`transition_outcome`), and so a robot and its image stay together through any series of commands
and their images (`outcomes_image`).

A quarter turn takes a board to the one with its sides exchanged, and a mirror takes every board to
itself. So no heading and no axis is treated in a way of its own (`headings_and_axes_alike`).
-/

namespace Tabletop

namespace Heading

/-- The heading in a mirror that exchanges east and west. -/
def mirror : Heading → Heading
  | north => north
  | east => west
  | south => south
  | west => east

theorem dx_left (h : Heading) : h.left.dx = -h.dy := by cases h <;> rfl

theorem dy_left (h : Heading) : h.left.dy = h.dx := by cases h <;> rfl

theorem dx_mirror (h : Heading) : h.mirror.dx = -h.dx := by cases h <;> rfl

theorem dy_mirror (h : Heading) : h.mirror.dy = h.dy := by cases h <;> rfl

/-- In the mirror a turn to the left is one to the right. -/
theorem mirror_left (h : Heading) : h.left.mirror = h.mirror.right := by cases h <;> rfl

end Heading

namespace Board

/-- A map of cells and headings under which robots on one board do what their images do on
another. -/
structure Symmetry (board image : Board) where
  cell : Cell → Cell
  heading : Heading → Heading
  /-- Whether left and right are swapped. -/
  mirrored : Bool
  holds_cell_iff : ∀ c, image.Holds (cell c) ↔ board.Holds c
  next_cell : ∀ c h, (cell c).next (heading h) = cell (c.next h)
  heading_left : ∀ h, heading h.left = if mirrored then (heading h).right else (heading h).left

namespace Symmetry

variable {board image : Board}

/-- The image of a pose. -/
def pose (symmetry : Symmetry board image) (pose : Pose) : Pose :=
  ⟨symmetry.cell pose.cell, symmetry.heading pose.heading⟩

/-- The image of a robot. -/
def robot (symmetry : Symmetry board image) : Robot → Robot
  | .unplaced => .unplaced
  | .placed pose => .placed (symmetry.pose pose)

/-- The image of a command. Where a placement goes, and in a mirror also to which side a turn goes,
is mapped. -/
def command (symmetry : Symmetry board image) : Command → Command
  | .place pose => .place (symmetry.pose pose)
  | .move => .move
  | .left => if symmetry.mirrored then .right else .left
  | .right => if symmetry.mirrored then .left else .right
  | .report => .report

/-- The image of a request. What is no command is its own image. -/
def request (symmetry : Symmetry board image) : Request → Request
  | .known command => .known (symmetry.command command)
  | .foreign kind => .foreign kind

/-- The image of an outcome. If the robot said something, its image reports where it stands. -/
def outcome (symmetry : Symmetry board image) (outcome : Outcome) : Outcome :=
  ⟨symmetry.robot outcome.robot,
    outcome.report.map fun _ => (symmetry.robot outcome.robot).label⟩

/-- One outcome belongs to another as its image: the robot is the image of the robot, and reports
where it stands whenever that robot reports. -/
structure Carries (symmetry : Symmetry board image) (original mapped : Outcome) : Prop where
  robot : mapped.robot = symmetry.robot original.robot
  reported : mapped.report.isSome = original.report.isSome
  report : ∀ report, mapped.report = some report → ∃ pose,
    mapped.robot = .placed pose ∧ report = pose.report

/-! ## One step -/

theorem heading_right (symmetry : Symmetry board image) (h : Heading) :
    symmetry.heading h.right =
      if symmetry.mirrored then (symmetry.heading h).left else (symmetry.heading h).right := by
  have hLeft := symmetry.heading_left h.right
  rw [Heading.left_right] at hLeft
  rw [hLeft]
  cases symmetry.mirrored <;> simp

theorem holds_next_iff (symmetry : Symmetry board image) (pose : Pose) :
    image.Holds ((symmetry.pose pose).cell.next (symmetry.pose pose).heading) ↔
      board.Holds (pose.cell.next pose.heading) := by
  rw [Symmetry.pose, symmetry.next_cell, symmetry.holds_cell_iff]

/-- Only placements have placements as their images. -/
theorem exists_place_of_command {symmetry : Symmetry board image} {command : Command}
    {pose : Pose} (h : symmetry.command command = .place pose) :
    ∃ other, command = .place other := by
  cases command with
  | place other => exact ⟨other, rfl⟩
  | move => cases h
  | left => cases hMirrored : symmetry.mirrored <;> simp [Symmetry.command, hMirrored] at h
  | right => cases hMirrored : symmetry.mirrored <;> simp [Symmetry.command, hMirrored] at h
  | report => cases h

/-- Every transition has an image. -/
theorem transition_outcome (symmetry : Symmetry board image) {before : Robot}
    {command : Option Command} {outcome : Outcome} (h : board.Transition before command outcome) :
    image.Transition (symmetry.robot before) (command.map symmetry.command)
      (symmetry.outcome outcome) := by
  cases h with
  | placed hOn => exact .placed ((symmetry.holds_cell_iff _).mpr hOn)
  | refused hOff => exact .refused fun hOn => hOff ((symmetry.holds_cell_iff _).mp hOn)
  | @moved pose hOn =>
    have hMoved := Transition.moved ((symmetry.holds_next_iff pose).mpr hOn)
    rw [Symmetry.pose, symmetry.next_cell] at hMoved
    exact hMoved
  | @blocked pose hOff => exact .blocked fun hOn => hOff ((symmetry.holds_next_iff pose).mp hOn)
  | @turnedLeft pose =>
    have hTurn := symmetry.heading_left pose.heading
    simp only [Option.map_some, Symmetry.command, Symmetry.outcome, Symmetry.robot, Symmetry.pose,
      hTurn]
    cases symmetry.mirrored with
    | true => exact .turnedRight
    | false => exact .turnedLeft
  | @turnedRight pose =>
    have hTurn := symmetry.heading_right pose.heading
    simp only [Option.map_some, Symmetry.command, Symmetry.outcome, Symmetry.robot, Symmetry.pose,
      hTurn]
    cases symmetry.mirrored with
    | true => exact .turnedLeft
    | false => exact .turnedRight
  | reported => exact .reported
  | @unready command hOther =>
    refine .unready fun pose hPlace => ?_
    obtain ⟨other, rfl⟩ := exists_place_of_command hPlace
    exact hOther other rfl
  | skipped => exact .skipped

theorem executeOrSkip_image (symmetry : Symmetry board image) (before : Robot)
    (command : Option Command) :
    image.executeOrSkip (symmetry.robot before) (command.map symmetry.command) =
      symmetry.outcome (board.executeOrSkip before command) :=
  executeOrSkip_of_transition
    (symmetry.transition_outcome (transition_executeOrSkip board before command))

/-! ## A series of steps -/

theorem outcomes_image (symmetry : Symmetry board image) (start : Robot)
    (commands : List (Option Command)) :
    image.outcomes (symmetry.robot start) (commands.map (Option.map symmetry.command)) =
      (board.outcomes start commands).map symmetry.outcome := by
  induction commands generalizing start with
  | nil => rfl
  | cons command commands ih =>
    rw [List.map_cons, outcomes_cons, outcomes_cons, executeOrSkip_image, List.map_cons]
    exact congrArg _ (ih _)

theorem carries_outcome (symmetry : Symmetry board image) {before : Robot}
    {command : Option Command} {outcome : Outcome} (h : board.Transition before command outcome) :
    symmetry.Carries outcome (symmetry.outcome outcome) where
  robot := rfl
  reported := Option.isSome_map
  report := by
    intro report hReport
    obtain ⟨said, hSaid, rfl⟩ := Option.map_eq_some_iff.mp hReport
    obtain ⟨pose, hPose, -⟩ := report_of_transition h hSaid
    have hMapped : symmetry.robot outcome.robot = .placed (symmetry.pose pose) := by
      rw [hPose, Symmetry.robot]
    exact ⟨symmetry.pose pose, hMapped, by rw [hMapped, Robot.label]⟩

/-- The images of requests give the images of the outcomes. -/
theorem exists_executeAll_image (symmetry : Symmetry board image) (start : Robot)
    (requests : List Request) :
    ∃ mapped,
      image.executeAll (some (symmetry.robot start)) ((requests.map symmetry.request).map some) =
        mapped.map .ok ∧
      List.Forall₂ symmetry.Carries (board.outcomes start (requests.map Request.command?))
        mapped := by
  have hCommands : (requests.map symmetry.request).map Request.command? =
      (requests.map Request.command?).map (Option.map symmetry.command) := by
    rw [List.map_map, List.map_map]
    refine List.map_congr_left fun request _ => ?_
    cases request <;> rfl
  refine ⟨_, executeAll_map_some image _ _, ?_⟩
  rw [hCommands, outcomes_image, List.forall₂_map_right_iff, List.forall₂_same]
  intro outcome hOutcome
  obtain ⟨before, command, hStep⟩ := exists_before_of_mem_outcomes hOutcome
  exact symmetry.carries_outcome hStep

end Symmetry

/-! ## Turned and mirrored boards -/

/-- The board with its sides exchanged. -/
def turned (board : Board) : Board :=
  ⟨board.height, board.width, board.height_pos, board.width_pos⟩

theorem holds_turned_iff (board : Board) (c : Cell) :
    board.turned.Holds ⟨board.height - 1 - c.y, c.x⟩ ↔ board.Holds c := by
  rw [holds_iff, holds_iff]
  dsimp only [turned]
  omega

theorem next_turned (board : Board) (c : Cell) (h : Heading) :
    Cell.next ⟨board.height - 1 - c.y, c.x⟩ h.left =
      ⟨board.height - 1 - (c.next h).y, (c.next h).x⟩ := by
  simp only [Cell.next, Cell.shift, Heading.dx_left, Heading.dy_left, Cell.mk.injEq, and_true]
  omega

/-- A quarter turn counterclockwise. The south side of the board becomes the east side. -/
def quarterTurn (board : Board) : Symmetry board board.turned where
  cell c := ⟨board.height - 1 - c.y, c.x⟩
  heading := Heading.left
  mirrored := false
  holds_cell_iff := board.holds_turned_iff
  next_cell := board.next_turned
  heading_left _ := rfl

theorem holds_mirror_iff (board : Board) (c : Cell) :
    board.Holds ⟨board.width - 1 - c.x, c.y⟩ ↔ board.Holds c := by
  rw [holds_iff, holds_iff]
  dsimp only
  omega

theorem next_mirror (board : Board) (c : Cell) (h : Heading) :
    Cell.next ⟨board.width - 1 - c.x, c.y⟩ h.mirror =
      ⟨board.width - 1 - (c.next h).x, (c.next h).y⟩ := by
  simp only [Cell.next, Cell.shift, Heading.dx_mirror, Heading.dy_mirror, Cell.mk.injEq, and_true]
  omega

/-- The mirror that exchanges the east side and the west side of the board. -/
def mirror (board : Board) : Symmetry board board where
  cell c := ⟨board.width - 1 - c.x, c.y⟩
  heading := Heading.mirror
  mirrored := true
  holds_cell_iff := board.holds_mirror_iff
  next_cell := board.next_mirror
  heading_left := Heading.mirror_left

/-- Whatever is requested of a robot, wherever it starts, the images of the requests lead its image
step by step to the images of where they lead the robot, on the board turned by a quarter and in the
mirror. The image reports whenever the robot does, and reports where it stands itself. -/
theorem headings_and_axes_alike (board : Board) (start : Robot) (requests : List Request) :
    ∃ outcomes : List Outcome,
      board.executeAll (some start) (requests.map some) = outcomes.map .ok ∧
      (∃ mapped : List Outcome,
        board.turned.executeAll (some (board.quarterTurn.robot start))
          ((requests.map board.quarterTurn.request).map some) = mapped.map .ok ∧
        List.Forall₂ board.quarterTurn.Carries outcomes mapped) ∧
      ∃ mapped : List Outcome,
        board.executeAll (some (board.mirror.robot start))
          ((requests.map board.mirror.request).map some) = mapped.map .ok ∧
        List.Forall₂ board.mirror.Carries outcomes mapped :=
  ⟨_, executeAll_map_some board start requests,
    board.quarterTurn.exists_executeAll_image start requests,
    board.mirror.exists_executeAll_image start requests⟩

example : (Board.mk 5 2).quarterTurn.pose ⟨⟨4, 0⟩, .east⟩ = ⟨⟨1, 4⟩, .north⟩ := by decide

end Board

end Tabletop
