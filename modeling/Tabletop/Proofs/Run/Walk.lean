import Tabletop.Proofs.Run.Driven
import Tabletop.Proofs.Run.Larger

/-!
# Walks

A walk is a series of strides, which are steps ahead and quarter turns. `Board.Leads` says that
executing the strides brings a robot from one pose to another, and that no step is blocked on the
way; it is put together from one stride at a time (`leads_cons_iff`).

A stride that is not blocked is undone by the stride with left and right exchanged, once the robot
faces about. So a robot on the board that turns about, takes the strides of its walk from the last
to the first with left and right exchanged, and turns about again, is where it was
(`walks_are_reversible`).
-/

namespace Tabletop

namespace Heading

/-- The heading after half a turn. -/
def opposite (heading : Heading) : Heading := heading.right.right

@[simp] theorem opposite_opposite (heading : Heading) : heading.opposite.opposite = heading := by
  cases heading <;> rfl

theorem dx_opposite (heading : Heading) : heading.opposite.dx = -heading.dx := by
  cases heading <;> rfl

theorem dy_opposite (heading : Heading) : heading.opposite.dy = -heading.dy := by
  cases heading <;> rfl

theorem right_opposite_left (heading : Heading) :
    heading.left.opposite.right = heading.opposite := by
  cases heading <;> rfl

theorem left_opposite_right (heading : Heading) :
    heading.right.opposite.left = heading.opposite := by
  cases heading <;> rfl

end Heading

/-- A step in the opposite direction leads back. -/
theorem Cell.next_next_opposite (cell : Cell) (heading : Heading) :
    (cell.next heading).next heading.opposite = cell := by
  simp only [next, shift, Heading.dx_opposite, Heading.dy_opposite, Int.add_neg_cancel_right]

/-- The pose on the same cell that faces the other way. -/
def Pose.about (pose : Pose) : Pose := ⟨pose.cell, pose.heading.opposite⟩

@[simp] theorem Pose.about_about (pose : Pose) : pose.about.about = pose := by
  rw [about, about, Heading.opposite_opposite]

/-- A step ahead or a quarter turn. -/
inductive Stride where
  | ahead
  | left
  | right
  deriving DecidableEq, Repr

namespace Stride

/-- The command that asks for the stride. -/
def command : Stride → Command
  | ahead => .move
  | left => .left
  | right => .right

/-- The stride with left and right exchanged. -/
def swapped : Stride → Stride
  | ahead => ahead
  | left => right
  | right => left

/-- Half a turn, then the strides of the walk from the last to the first with left and right
exchanged, then half a turn. -/
def wayBack (walk : List Stride) : List Stride :=
  [right, right] ++ (walk.map swapped).reverse ++ [right, right]

end Stride

namespace Board

/-- Nothing that is asked of the robot on the way is refused. -/
def Clear (board : Board) : Robot → List Command → Prop
  | _, [] => True
  | robot, command :: commands =>
    ¬ board.Refuses robot (some command) ∧
      board.Clear (board.execute robot command).robot commands

instance decidableClear (board : Board) : ∀ robot commands, Decidable (board.Clear robot commands)
  | _, [] => inferInstanceAs (Decidable True)
  | robot, command :: commands =>
    have := decidableClear board (board.execute robot command).robot commands
    inferInstanceAs (Decidable (_ ∧ _))

/-- The strides lead from one pose to the other. -/
structure Leads (board : Board) (first : Pose) (walk : List Stride) (last : Pose) : Prop where
  /-- A robot that executes the strides at the one pose comes to the other. -/
  robot : board.robotAfter some (.placed first) (walk.map Stride.command) = .placed last
  /-- None of the steps is blocked. -/
  clear : board.Clear (.placed first) (walk.map Stride.command)

variable {board : Board} {first middle last : Pose} {walk others : List Stride}

/-! ## One stride -/

/-- Only a step ahead can be refused. -/
theorem refuses_stride_iff {pose : Pose} {stride : Stride} :
    board.Refuses (.placed pose) (some stride.command) ↔
      stride = .ahead ∧ ¬ board.Holds (pose.cell.next pose.heading) := by
  cases stride <;> simp [Refuses, Robot.target?, Stride.command]

theorem lands_stride (board : Board) (stride : Stride) :
    board.lands (some stride.command) = false := by
  cases stride <;> rfl

/-! ## Many strides -/

theorem noneLands_strides (board : Board) (walk : List Stride) :
    board.NoneLands some (walk.map Stride.command) := by
  intro command hCommand
  obtain ⟨stride, -, rfl⟩ := List.mem_map.mp hCommand
  exact board.lands_stride stride

@[simp] theorem leads_nil_iff : board.Leads first [] last ↔ first = last := by
  constructor
  · intro h
    exact Robot.placed.inj h.robot
  · rintro rfl
    exact ⟨rfl, trivial⟩

theorem leads_cons_iff {stride : Stride} :
    board.Leads first (stride :: walk) last ↔
      ¬ board.Refuses (.placed first) (some stride.command) ∧
        board.Leads (board.drive first (some stride.command)) walk last := by
  have hRobot : (board.executeOrSkip (.placed first) (some stride.command)).robot =
      .placed (board.drive first (some stride.command)) :=
    robot_executeOrSkip_placed (board.lands_stride stride) first
  have hAfter : board.robotAfter some (.placed first) ((stride :: walk).map Stride.command) =
      board.robotAfter some (.placed (board.drive first (some stride.command)))
        (walk.map Stride.command) := by
    rw [List.map_cons, robotAfter_cons, hRobot]
  have hClear : board.Clear (.placed first) ((stride :: walk).map Stride.command) ↔
      ¬ board.Refuses (.placed first) (some stride.command) ∧
        board.Clear (.placed (board.drive first (some stride.command)))
          (walk.map Stride.command) := by
    rw [← hRobot]
    rfl
  constructor
  · rintro ⟨hRobot, hWay⟩
    exact ⟨(hClear.mp hWay).1, hAfter ▸ hRobot, (hClear.mp hWay).2⟩
  · rintro ⟨hFirst, hRobot, hWay⟩
    exact ⟨hAfter ▸ hRobot, hClear.mpr ⟨hFirst, hWay⟩⟩

theorem leads_ahead_iff :
    board.Leads first (.ahead :: walk) last ↔
      board.Holds (first.cell.next first.heading) ∧
        board.Leads ⟨first.cell.next first.heading, first.heading⟩ walk last := by
  rw [leads_cons_iff, refuses_stride_iff, eq_self, true_and, not_not]
  refine and_congr_right fun hOn => ?_
  rw [Stride.command, drive, step_of_holds hOn]

theorem leads_left_iff :
    board.Leads first (.left :: walk) last ↔
      board.Leads ⟨first.cell, first.heading.left⟩ walk last := by
  rw [leads_cons_iff, refuses_stride_iff]
  exact and_iff_right fun hRefused => Stride.noConfusion hRefused.1

theorem leads_right_iff :
    board.Leads first (.right :: walk) last ↔
      board.Leads ⟨first.cell, first.heading.right⟩ walk last := by
  rw [leads_cons_iff, refuses_stride_iff]
  exact and_iff_right fun hRefused => Stride.noConfusion hRefused.1

theorem Leads.append (h : board.Leads first walk middle) (g : board.Leads middle others last) :
    board.Leads first (walk ++ others) last := by
  induction walk generalizing first with
  | nil =>
    obtain rfl := leads_nil_iff.mp h
    exact g
  | cons stride walk ih =>
    obtain ⟨hFirst, hRest⟩ := leads_cons_iff.mp h
    exact leads_cons_iff.mpr ⟨hFirst, ih hRest⟩

/-! ## The way back -/

theorem leads_about (board : Board) (pose : Pose) :
    board.Leads pose [.right, .right] pose.about :=
  leads_right_iff.mpr (leads_right_iff.mpr (leads_nil_iff.mpr rfl))

/-- A robot that faces about undoes a stride by the one with left and right exchanged. -/
theorem leads_swapped {stride : Stride} (hOn : board.Holds first.cell)
    (h : board.Leads first [stride] middle) :
    board.Leads middle.about [stride.swapped] first.about := by
  cases stride with
  | ahead =>
    obtain ⟨-, hLast⟩ := leads_ahead_iff.mp h
    obtain rfl := leads_nil_iff.mp hLast
    have hBack : (first.cell.next first.heading).next first.heading.opposite = first.cell :=
      first.cell.next_next_opposite first.heading
    refine leads_ahead_iff.mpr ⟨?_, ?_⟩
    · exact hBack.symm ▸ hOn
    · exact leads_nil_iff.mpr (congrArg (Pose.mk · _) hBack)
  | left =>
    obtain rfl := leads_nil_iff.mp (leads_left_iff.mp h)
    have hBack := first.heading.right_opposite_left
    exact leads_right_iff.mpr (leads_nil_iff.mpr (congrArg (Pose.mk _) hBack))
  | right =>
    obtain rfl := leads_nil_iff.mp (leads_right_iff.mp h)
    have hBack := first.heading.left_opposite_right
    exact leads_left_iff.mpr (leads_nil_iff.mpr (congrArg (Pose.mk _) hBack))

/-- The induction is on the walk from its first stride, which is the last one to be undone. -/
theorem leads_swapped_reverse (hOn : board.Holds first.cell) (h : board.Leads first walk last) :
    board.Leads last.about (walk.map Stride.swapped).reverse first.about := by
  induction walk generalizing first with
  | nil =>
    obtain rfl := leads_nil_iff.mp h
    exact leads_nil_iff.mpr rfl
  | cons stride walk ih =>
    obtain ⟨hClear, hRest⟩ := leads_cons_iff.mp h
    have hFirst : board.Leads first [stride] (board.drive first (some stride.command)) :=
      leads_cons_iff.mpr ⟨hClear, leads_nil_iff.mpr rfl⟩
    have hUndone := ih (holds_drive hOn (some stride.command)) hRest
    rw [List.map_cons, List.reverse_cons]
    exact hUndone.append (leads_swapped hOn hFirst)

theorem exists_leads_of_clear (hClear : board.Clear (.placed first) (walk.map Stride.command)) :
    ∃ last, board.Leads first walk last :=
  ⟨_, robotAfter_of_noneLands (board.noneLands_strides walk) first, hClear⟩

/-- Any walk of a robot on the board on which no step is blocked can be walked back. The way back
ends where the walk began, with the same heading, and no step of it is blocked either. -/
theorem walks_are_reversible {start : Pose} (hOn : board.Holds start.cell)
    (hClear : board.Clear (.placed start) (walk.map Stride.command)) :
    ∃ finish, board.Leads start walk finish ∧ board.Leads finish (Stride.wayBack walk) start := by
  obtain ⟨finish, hWalk⟩ := exists_leads_of_clear hClear
  have hUndone := leads_swapped_reverse hOn hWalk
  have hBack := ((board.leads_about finish).append hUndone).append (board.leads_about start.about)
  rw [Pose.about_about] at hBack
  exact ⟨finish, hWalk, hBack⟩

/-- A walk around a corner, up to a side of the board. -/
theorem walks_are_reversible_around_corner :
    let board := Board.mk 3 2
    let start : Pose := ⟨⟨0, 0⟩, .north⟩
    let finish : Pose := ⟨⟨2, 1⟩, .north⟩
    let walk : List Stride := [.ahead, .right, .ahead, .ahead, .left]
    let back : List Command :=
      [.right, .right, .right, .move, .move, .left, .move, .right, .right]
    board.Holds start.cell ∧ board.Clear (.placed start) (walk.map Stride.command) ∧
      board.robotAfter some (.placed start) [.move, .right, .move, .move, .left] =
        .placed finish ∧
      board.robotAfter some (.placed finish) back = .placed start ∧
      board.Clear (.placed finish) back := by
  intro board start finish walk back
  have hOn : board.Holds start.cell := by decide
  have hClear : board.Clear (.placed start) (walk.map Stride.command) := by decide
  have hFinish : board.robotAfter some (.placed start) (walk.map Stride.command) =
      .placed finish := by decide
  obtain ⟨last, hWalk, hBack⟩ := walks_are_reversible hOn hClear
  obtain rfl : finish = last := Robot.placed.inj (hFinish.symm.trans hWalk.robot)
  exact ⟨hOn, hClear, hFinish, hBack.robot, hBack.clear⟩

end Board

end Tabletop
