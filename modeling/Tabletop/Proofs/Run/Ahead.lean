import Tabletop.Proofs.Run.Driven
import Tabletop.Proofs.Run.Guarded
import Tabletop.Proofs.Run.Idle

/-!
# Steps straight ahead

A robot on the board that only steps ahead comes as many cells ahead as it has stepped, or to the
side of the board if that is nearer (`Board.ahead`). One more step leads from each of these poses to
the next, which at the side is the same one (`step_ahead`). Lines that leave every robot as it is
make no difference, wherever they stand between the steps; those that ask for a report are answered
with the pose reached so far (`steps_stop_at_side`).
-/

namespace Tabletop

namespace Board

variable {Line : Type}

/-- The pose that many cells ahead, or at the side of the board if that is nearer. -/
def ahead (board : Board) (pose : Pose) (n : Nat) : Pose :=
  match pose.heading with
  | .north => ⟨⟨pose.cell.x, min (pose.cell.y + n) (board.height - 1)⟩, .north⟩
  | .east => ⟨⟨min (pose.cell.x + n) (board.width - 1), pose.cell.y⟩, .east⟩
  | .south => ⟨⟨pose.cell.x, max (pose.cell.y - n) 0⟩, .south⟩
  | .west => ⟨⟨max (pose.cell.x - n) 0, pose.cell.y⟩, .west⟩

/-- A command, or a missing one, that leaves every robot as it is. -/
inductive Passive (board : Board) : Option Command → Prop
  | rejected : Passive board none
  | reported : Passive board (some .report)
  | refused {pose : Pose} (hOff : ¬ board.Holds pose.cell) : Passive board (some (.place pose))

/-- Each of the lines is a step ahead, or leaves every robot as it is. -/
def GoesAhead (board : Board) (read? : Line → Option Command) (lines : List Line) : Prop :=
  ∀ line ∈ lines, read? line = some .move ∨ board.Passive (read? line)

/-- What holds of the steps of a run over such lines, from a robot on the board. -/
structure StopsAtSide (board : Board) (read? : Line → Option Command) (start : Pose)
    (lines : List Line) (steps : List (Step Line)) : Prop where
  /-- The robot is as many cells ahead as there were steps ahead among the lines so far, or at the
  side of the board. -/
  robot : ∀ (k : Nat) (step : Step Line), steps[k]? = some step → step.robot =
    .placed (board.ahead start (((lines.take (k + 1)).map read?).count (some .move)))
  /-- Lines that ask for a report get that pose, and no other line makes the robot say anything. -/
  report : ∀ (k : Nat) (step : Step Line), steps[k]? = some step → step.report =
    if read? step.line = some .report then some step.robot.label else none

/-! ## One step -/

theorem ahead_zero {board : Board} {pose : Pose} (hOn : board.Holds pose.cell) :
    board.ahead pose 0 = pose := by
  obtain ⟨⟨x, y⟩, heading⟩ := pose
  rw [holds_iff] at hOn
  dsimp only at hOn
  cases heading <;>
    simp only [ahead, Pose.mk.injEq, Cell.mk.injEq, and_true, true_and, Nat.cast_zero] <;> omega

/-- Where the board ends ahead of the robot, so do the poses. -/
theorem step_ahead {board : Board} {pose : Pose} (hOn : board.Holds pose.cell) (n : Nat) :
    board.step (board.ahead pose n) = board.ahead pose (n + 1) := by
  obtain ⟨⟨x, y⟩, heading⟩ := pose
  rw [holds_iff] at hOn
  by_cases hNext : board.Holds ((board.ahead ⟨⟨x, y⟩, heading⟩ n).cell.next
      (board.ahead ⟨⟨x, y⟩, heading⟩ n).heading)
  · rw [step_of_holds hNext]
    rw [holds_iff] at hNext
    cases heading <;>
      simp only [ahead, Cell.next, Cell.shift, Heading.dx, Heading.dy, Pose.mk.injEq,
        Cell.mk.injEq, and_true] at hOn hNext ⊢ <;> omega
  · rw [step_of_not_holds hNext]
    rw [holds_iff] at hNext
    cases heading <;>
      simp only [ahead, Cell.next, Cell.shift, Heading.dx, Heading.dy, Pose.mk.injEq,
        Cell.mk.injEq, and_true, true_and] at hOn hNext ⊢ <;> omega

theorem Passive.lands {board : Board} {command : Option Command} (h : board.Passive command) :
    board.lands command = false := by
  cases h with
  | rejected => rfl
  | reported => rfl
  | refused hOff => exact decide_eq_false hOff

theorem drive_of_passive {board : Board} {command : Option Command} (h : board.Passive command)
    (pose : Pose) : board.drive pose command = pose := by
  cases h <;> rfl

/-! ## Steps and nothing else -/

theorem outcomes_replicate_move {board : Board} {pose : Pose} (hOn : board.Holds pose.cell)
    (m n : Nat) :
    board.outcomes (.placed (board.ahead pose m)) (List.replicate n (some .move)) =
      (List.range n).map fun k => ⟨.placed (board.ahead pose (m + k + 1)), none⟩ := by
  induction n generalizing m with
  | zero => rfl
  | succ n ih =>
    have hStep : board.executeOrSkip (.placed (board.ahead pose m)) (some .move) =
        ⟨.placed (board.ahead pose (m + 1)), none⟩ := by
      rw [← step_ahead hOn]
      rfl
    rw [List.replicate_succ, outcomes_cons, hStep, ih, List.range_succ_eq_map, List.map_cons,
      List.map_map]
    refine congrArg _ (List.map_congr_left fun k _ => ?_)
    simp only [Function.comp_apply, Nat.succ_eq_add_one, Nat.add_assoc, Nat.add_comm 1]

/-! ## Steps among lines that do nothing -/

theorem GoesAhead.noneLands {board : Board} {read? : Line → Option Command} {lines : List Line}
    (h : board.GoesAhead read? lines) : board.NoneLands read? lines := by
  intro line hLine
  rcases h line hLine with hMove | hPassive
  · rw [hMove]
    rfl
  · exact hPassive.lands

/-- The induction is on the last command, since that is the one that goes on from a pose ahead. -/
theorem driven_eq_ahead {board : Board} {pose : Pose} (hOn : board.Holds pose.cell)
    {commands : List (Option Command)}
    (h : ∀ command ∈ commands, command = some .move ∨ board.Passive command) :
    board.driven pose commands = board.ahead pose (commands.count (some .move)) := by
  induction commands using List.reverseRecOn with
  | nil => exact (ahead_zero hOn).symm
  | append_singleton commands command ih =>
    have hBefore := ih fun other hOther => h other (List.mem_append_left _ hOther)
    rw [driven_concat, hBefore, List.count_append]
    rcases h command (List.mem_append_right _ (List.mem_singleton_self command)) with
      rfl | hPassive
    · rw [List.count_singleton_self, ← step_ahead hOn]
      rfl
    · have hOther : command ≠ some .move := by
        rintro rfl
        cases hPassive
      rw [drive_of_passive hPassive, List.count_singleton, if_neg (by simpa using hOther),
        Nat.add_zero]

theorem stopsAtSide_stepsFrom {board : Board} {read? : Line → Option Command} {start : Pose}
    (hOn : board.Holds start.cell) {lines : List Line} (h : board.GoesAhead read? lines)
    (number : Nat) :
    board.StopsAtSide read? start lines
      (board.stepsFrom read? number (.placed start) lines) where
  robot := by
    intro k step hStep
    rw [robot_of_noneLands h.noneLands hStep, driven_eq_ahead hOn]
    intro command hCommand
    obtain ⟨line, hLine, rfl⟩ := List.mem_map.mp hCommand
    exact h line (List.mem_of_mem_take hLine)
  report := fun _ _ hStep => report_of_noneLands h.noneLands hStep

/-- From a robot on the board, any number of steps ahead leads as far as the board goes in that
direction and no further, with the heading unchanged and nothing said. As lines of a run the steps
lead to the same poses, whatever lines stand between them that are no command, ask for a report or
place the robot off the board. If the sides of the board have at most 4300 digits, all reports that
are asked for can be written. -/
theorem steps_stop_at_side {board : Board} {start : Pose} (hOn : board.Holds start.cell) :
    (∀ n : Nat,
      board.robotAfter some (.placed start) (List.replicate n .move) =
        .placed (board.ahead start n) ∧
      board.executeAll (some (.placed start)) (List.replicate n (some (.known .move))) =
        (List.range n).map fun k => .ok ⟨.placed (board.ahead start (k + 1)), none⟩) ∧
    (∀ lines : List Text, board.GoesAhead Command.ofLine? lines →
      board.StopsAtSide Command.ofLine? start lines (board.runFrom (.placed start) lines) ∧
      (board.Fits → board.stepsGuarded Command.ofLine? 1 (.placed start) lines =
        (board.runFrom (.placed start) lines, none))) ∧
    ∀ lines : List (Option Text), board.GoesAhead (·.bind Command.ofLine?) lines →
      board.StopsAtSide (·.bind Command.ofLine?) start lines
        (board.runSparse (.placed start) lines) ∧
      (board.Fits → board.stepsGuarded (·.bind Command.ofLine?) 1 (.placed start) lines =
        (board.runSparse (.placed start) lines, none)) := by
  have hStart (hBoard : board.Fits) : (Robot.placed start).Fits := by
    rintro pose ⟨⟩
    exact fits_of_holds hBoard hOn
  refine ⟨fun n => ⟨?_, ?_⟩,
    fun lines h => ⟨stopsAtSide_stepsFrom hOn h 1, fun hBoard => ?_⟩,
    fun lines h => ⟨stopsAtSide_stepsFrom hOn h 1, fun hBoard => ?_⟩⟩
  · have hMoves : board.GoesAhead some (List.replicate n .move) :=
      fun command hCommand => Or.inl (congrArg some (List.eq_of_mem_replicate hCommand))
    rw [robotAfter_of_noneLands hMoves.noneLands, List.map_replicate, driven_eq_ahead hOn,
      List.count_replicate_self]
    exact fun command hCommand => Or.inl (List.eq_of_mem_replicate hCommand)
  · have hOutcomes := outcomes_replicate_move hOn 0 n
    rw [ahead_zero hOn] at hOutcomes
    have hRequests := executeAll_map_some board (.placed start) (List.replicate n (.known .move))
    rw [List.map_replicate, List.map_replicate, Request.command?, hOutcomes, List.map_map]
      at hRequests
    simpa only [Function.comp_def, Nat.zero_add] using hRequests
  · exact stepsGuarded_of_fits hBoard _ 1 (hStart hBoard) lines
  · exact stepsGuarded_of_fits hBoard _ 1 (hStart hBoard) lines

/-- Four steps to a side that is two cells away, with lines of every other kind between them. -/
theorem steps_stop_at_east_side :
    let board := Board.mk 4 2
    let start : Pose := ⟨⟨1, 1⟩, .east⟩
    let lines : List Text :=
      ["MOVE".toList, "jump".toList, "REPORT".toList, "place 9,9,north".toList, " move".toList,
        "MOVE".toList, "MOVE".toList, "REPORT".toList]
    let last : Step Text :=
      ⟨8, "REPORT".toList, some .report, ⟨.placed ⟨⟨3, 1⟩, .east⟩, some "3,1,EAST".toList⟩⟩
    board.Holds start.cell ∧ board.GoesAhead Command.ofLine? lines ∧ board.Fits ∧
      board.executeAll (some (.placed start)) (List.replicate 4 (some (.known .move))) =
        [.ok ⟨.placed ⟨⟨2, 1⟩, .east⟩, none⟩, .ok ⟨.placed ⟨⟨3, 1⟩, .east⟩, none⟩,
          .ok ⟨.placed ⟨⟨3, 1⟩, .east⟩, none⟩, .ok ⟨.placed ⟨⟨3, 1⟩, .east⟩, none⟩] ∧
      (board.runFrom (.placed start) lines)[7]? = some last ∧
      last.robot = .placed (board.ahead start 4) ∧ last.report = some last.robot.label ∧
      board.stepsGuarded Command.ofLine? 1 (.placed start) lines =
        (board.runFrom (.placed start) lines, none) := by
  intro board start lines last
  have hOn : board.Holds start.cell := by decide
  have hOff : ¬ board.Holds ⟨9, 9⟩ := by decide
  have hRefused : board.Passive (some (.place ⟨⟨9, 9⟩, .north⟩)) := .refused hOff
  have hLines : board.GoesAhead Command.ofLine? lines := by
    simp only [GoesAhead, lines, List.forall_mem_cons]
    exact ⟨Or.inl rfl, Or.inr .rejected, Or.inr .reported, Or.inr hRefused, Or.inl rfl, Or.inl rfl,
      Or.inl rfl, Or.inr .reported, nofun⟩
  have hBoard : board.Fits := ⟨Numeral.fits_iff.mpr (by decide), Numeral.fits_iff.mpr (by decide)⟩
  have hLast : (board.runFrom (.placed start) lines)[7]? = some last := by decide +kernel
  have hAsked : Command.ofLine? last.line = some .report := rfl
  have hCount : ((lines.take 8).map Command.ofLine?).count (some .move) = 4 := by decide
  obtain ⟨hSteps, hRuns, -⟩ := steps_stop_at_side hOn
  obtain ⟨hStops, hGuarded⟩ := hRuns lines hLines
  have hRobot := hStops.robot 7 last hLast
  have hReport := hStops.report 7 last hLast
  rw [hCount] at hRobot
  rw [if_pos hAsked] at hReport
  exact ⟨hOn, hLines, hBoard, (hSteps 4).2, hLast, hRobot, hReport, hGuarded hBoard⟩

end Board

end Tabletop
