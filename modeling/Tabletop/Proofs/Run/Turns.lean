import Mathlib.Logic.Function.Iterate
import Tabletop.Proofs.Run.Driven
import Tabletop.Proofs.Run.Guarded
import Tabletop.Proofs.Run.Larger

/-!
# Headings count turns

A heading is known from the heading at the start and the turns since then: every turn to the right
is a quarter clockwise, every turn to the left undoes one, and four quarters are none
(`heading_driven`). Steps, blocked or not, reports, refused placements and lines that are no command
do not turn the robot. Its cell is changed by steps alone (`cell_drive_of_ne`). So a run that places
nothing on the board keeps count of the heading in its turns (`heading_counts_turns`).
-/

namespace Tabletop

namespace Heading

/-- The heading so many quarters clockwise. Four quarters are a whole turn. -/
def turned (heading : Heading) (quarters : Int) : Heading :=
  right^[(quarters % 4).toNat] heading

@[simp] theorem turned_zero (heading : Heading) : heading.turned 0 = heading := rfl

theorem turned_right (heading : Heading) (quarters : Int) :
    heading.right.turned quarters = heading.turned (quarters + 1) := by
  unfold turned
  have hQuarters : quarters % 4 = 0 ∨ quarters % 4 = 1 ∨ quarters % 4 = 2 ∨ quarters % 4 = 3 := by
    omega
  rcases hQuarters with h | h | h | h
  · have hNext : (quarters + 1) % 4 = 1 := by omega
    rw [h, hNext]
    rfl
  · have hNext : (quarters + 1) % 4 = 2 := by omega
    rw [h, hNext]
    rfl
  · have hNext : (quarters + 1) % 4 = 3 := by omega
    rw [h, hNext]
    rfl
  · -- the fourth quarter completes the turn
    have hNext : (quarters + 1) % 4 = 0 := by omega
    rw [h, hNext]
    cases heading <;> rfl

theorem turned_left (heading : Heading) (quarters : Int) :
    heading.left.turned quarters = heading.turned (quarters - 1) := by
  have hBack := turned_right heading.left (quarters - 1)
  rw [right_left, Int.sub_add_cancel] at hBack
  exact hBack.symm

example : north.turned (1 - 3) = south := by decide

end Heading

namespace Board

variable {Line : Type}

/-- How many more turns to the right than to the left there are among some commands. -/
def turnsOf (commands : List (Option Command)) : Int :=
  commands.count (some .right) - commands.count (some .left)

/-- What holds of the steps of a run over some lines that place nothing on the board, from a robot
that has been placed. -/
structure TurnsCounted (read? : Line → Option Command) (start : Pose) (lines : List Line)
    (steps : List (Step Line)) : Prop where
  /-- The heading is the one of the start, turned by the turns among the lines so far. -/
  heading : ∀ k step, steps[k]? = some step →
    step.robot.heading? = some (start.heading.turned (turnsOf ((lines.take (k + 1)).map read?)))
  /-- Only lines that stand for a step ahead change the cell. -/
  cell : ∀ pair ∈ withRobots (.placed start) steps, read? pair.2.line ≠ some .move →
    pair.2.robot.cell? = pair.1.cell?

theorem turnsOf_cons_right (commands : List (Option Command)) :
    turnsOf (some .right :: commands) = turnsOf commands + 1 := by
  have hLeft : (some .right : Option Command) ≠ some .left := by decide
  rw [turnsOf, turnsOf, List.count_cons_self, List.count_cons_of_ne hLeft]
  omega

theorem turnsOf_cons_left (commands : List (Option Command)) :
    turnsOf (some .left :: commands) = turnsOf commands - 1 := by
  have hRight : (some .left : Option Command) ≠ some .right := by decide
  rw [turnsOf, turnsOf, List.count_cons_self, List.count_cons_of_ne hRight]
  omega

theorem turnsOf_cons_of_ne {command : Option Command} (hRight : command ≠ some .right)
    (hLeft : command ≠ some .left) (commands : List (Option Command)) :
    turnsOf (command :: commands) = turnsOf commands := by
  rw [turnsOf, turnsOf, List.count_cons_of_ne hRight, List.count_cons_of_ne hLeft]

/-! ## One step -/

theorem heading_drive_of_ne (board : Board) (pose : Pose) {command : Option Command}
    (hRight : command ≠ some .right) (hLeft : command ≠ some .left) :
    (board.drive pose command).heading = pose.heading := by
  cases command with
  | none => rfl
  | some command =>
    cases command with
    | move => exact board.heading_step pose
    | left => exact absurd rfl hLeft
    | right => exact absurd rfl hRight
    | _ => rfl

/-! ## A run -/

theorem heading_driven (board : Board) (pose : Pose) (commands : List (Option Command)) :
    (board.driven pose commands).heading = pose.heading.turned (turnsOf commands) := by
  induction commands generalizing pose with
  | nil => rfl
  | cons command commands ih =>
    rw [driven_cons, ih]
    by_cases hRight : command = some .right
    · rw [hRight, turnsOf_cons_right, ← Heading.turned_right]
      rfl
    · by_cases hLeft : command = some .left
      · rw [hLeft, turnsOf_cons_left, ← Heading.turned_left]
        rfl
      · rw [board.heading_drive_of_ne pose hRight hLeft, turnsOf_cons_of_ne hRight hLeft]

/-- Every step of a run that places nothing on the board starts from a placed robot, whose pose is
driven by the command at hand. -/
theorem exists_driven_of_mem {board : Board} {read? : Line → Option Command} {lines : List Line}
    (h : board.NoneLands read? lines) {number : Nat} {start : Pose} {pair : Robot × Step Line}
    (hPair : pair ∈ withRobots (.placed start)
      (board.stepsFrom read? number (.placed start) lines)) :
    ∃ pose, pair.1 = .placed pose ∧
      pair.2.robot = .placed (board.drive pose (read? pair.2.line)) := by
  induction lines generalizing number start with
  | nil => cases hPair
  | cons line lines ih =>
    obtain ⟨hLine, hRest⟩ := List.forall_mem_cons.mp h
    have hRobot := robot_executeOrSkip_placed hLine start
    rw [withRobots_stepsFrom_cons, hRobot] at hPair
    rcases List.mem_cons.mp hPair with rfl | hPair
    · exact ⟨start, rfl, hRobot⟩
    · exact ih hRest hPair

theorem turnsCounted_stepsFrom {board : Board} {read? : Line → Option Command}
    {lines : List Line} (h : board.NoneLands read? lines) (number : Nat) (start : Pose) :
    TurnsCounted read? start lines (board.stepsFrom read? number (.placed start) lines) where
  heading := by
    intro k step hStep
    rw [robot_of_noneLands h hStep, ← board.heading_driven]
    rfl
  cell := by
    intro pair hPair hMove
    obtain ⟨pose, hBefore, hAfter⟩ := exists_driven_of_mem h hPair
    rw [hBefore, hAfter]
    exact congrArg some (board.cell_drive_of_ne pose hMove)

/-- From a robot that has been placed, on the board or off it, a run over lines none of which places
it on the board turns it by its turns and by nothing else, and brings it to other cells by its steps
and by nothing else. A run that breaks off, because it is to write a number with too many digits,
has taken the first of these steps. -/
theorem heading_counts_turns (board : Board) (start : Pose) :
    (∀ lines : List Text, board.NoneLands Command.ofLine? lines →
      TurnsCounted Command.ofLine? start lines (board.runFrom (.placed start) lines) ∧
      (board.stepsGuarded Command.ofLine? 1 (.placed start) lines).1 <+:
        board.runFrom (.placed start) lines) ∧
    ∀ lines : List (Option Text), board.NoneLands (·.bind Command.ofLine?) lines →
      TurnsCounted (·.bind Command.ofLine?) start lines
        (board.runSparse (.placed start) lines) ∧
      (board.stepsGuarded (·.bind Command.ofLine?) 1 (.placed start) lines).1 <+:
        board.runSparse (.placed start) lines :=
  ⟨fun _ h => ⟨turnsCounted_stepsFrom h 1 start, board.stepsGuarded_prefix _ 1 _ _⟩,
    fun _ h => ⟨turnsCounted_stepsFrom h 1 start, board.stepsGuarded_prefix _ 1 _ _⟩⟩

/-- A robot that steps onto the board, and is blocked, refused and misunderstood between its
turns. -/
theorem heading_counts_turns_onto_board :
    let board := Board.mk 3 2
    let start : Pose := ⟨⟨2, -1⟩, .west⟩
    let lines : List Text :=
      ["RIGHT".toList, "MOVE".toList, "PLACE 3,1,SOUTH".toList, "right".toList, "MOVE".toList,
        "jump".toList, "REPORT".toList, "LEFT".toList, " Right ".toList, "RIGHT".toList]
    let refused : Step Text :=
      ⟨3, "PLACE 3,1,SOUTH".toList, some (.place ⟨⟨3, 1⟩, .south⟩),
        ⟨.placed ⟨⟨2, 0⟩, .north⟩, none⟩⟩
    let last : Step Text := ⟨10, "RIGHT".toList, some .right, ⟨.placed ⟨⟨2, 0⟩, .south⟩, none⟩⟩
    board.NoneLands Command.ofLine? lines ∧
      (board.runFrom (.placed start) lines)[9]? = some last ∧
      last.robot.heading? = some (start.heading.turned (4 - 1)) ∧
      (.placed ⟨⟨2, 0⟩, .north⟩, refused) ∈
        withRobots (.placed start) (board.runFrom (.placed start) lines) ∧
      refused.robot.cell? = some ⟨2, 0⟩ := by
  intro board start lines refused last
  have hNone : board.NoneLands Command.ofLine? lines := by decide
  have hLast : (board.runFrom (.placed start) lines)[9]? = some last := rfl
  have hRefused : (.placed ⟨⟨2, 0⟩, .north⟩, refused) ∈
      withRobots (.placed start) (board.runFrom (.placed start) lines) := by decide
  obtain ⟨hCounted, -⟩ := (heading_counts_turns board start).1 lines hNone
  exact ⟨hNone, hLast, hCounted.heading 9 last hLast, hRefused,
    hCounted.cell _ hRefused (by decide)⟩

end Board

end Tabletop
