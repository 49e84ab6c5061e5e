import Tabletop.Proofs.Run.Guarded

/-!
# Placements erase the past

A guarded run goes wrong only at a report of a robot whose coordinates are too long
(`stepsGuarded_eq_none_iff`), and behind lines at which nothing goes wrong it goes on from the robot
they leave behind (`stepsGuarded_append`). A robot is all they leave behind, and a placement on the
board puts any robot at its own pose. So what comes behind such a placement tells nothing of what
was before it (`placement_erases_past`).

The past must have come to its end for that. A report that goes wrong ends the run, and the
placement behind it is never reached (`far_report_keeps_from_placement`).
-/

namespace Tabletop

namespace Board

variable {Line : Type}

/-! ## Runs that come to their end -/

/-- Nothing goes wrong on the guarded run over some lines from the given robot. -/
def Completes (board : Board) (read? : Line → Option Command) (start : Robot)
    (lines : List Line) : Prop :=
  (board.stepsGuarded read? 1 start lines).2 = none

/-- The numbers of the steps have no part in what a guarded run does. -/
theorem stepsGuarded_renumbered (board : Board) (read? : Line → Option Command)
    (number other : Nat) (robot : Robot) (lines : List Line) :
    board.stepsGuarded read? other robot lines =
      (renumberedFrom other (board.stepsGuarded read? number robot lines).1,
        (board.stepsGuarded read? number robot lines).2) := by
  induction lines generalizing number other robot with
  | nil => rfl
  | cons line lines ih =>
    rw [stepsGuarded, stepsGuarded]
    cases board.executeOrSkipGuarded robot (read? line) with
    | error failure => rfl
    | ok outcome =>
      dsimp only
      rw [ih (number + 1) (other + 1) outcome.robot, renumberedFrom]

theorem robot_executeOrSkip_report (board : Board) (robot : Robot) :
    (board.executeOrSkip robot (some .report)).robot = robot := by
  cases robot <;> rfl

/-- A guarded run comes to its end exactly if no robot has to report coordinates that are too
long. -/
theorem stepsGuarded_eq_none_iff {board : Board} {read? : Line → Option Command} {number : Nat}
    {robot : Robot} {lines : List Line} :
    (board.stepsGuarded read? number robot lines).2 = none ↔
      ∀ step ∈ board.stepsFrom read? number robot lines,
        step.command = some .report → step.robot.Fits := by
  induction lines generalizing number robot with
  | nil => simp [stepsGuarded]
  | cons line lines ih =>
    have hFirst :
        (read? line = some .report → (board.executeOrSkip robot (read? line)).robot.Fits) ↔
          (read? line = some .report → robot.Fits) := by
      refine forall_congr' fun hReport => ?_
      rw [hReport, robot_executeOrSkip_report]
    rw [stepsGuarded, stepsFrom_cons, List.forall_mem_cons]
    cases hStep : board.executeOrSkipGuarded robot (read? line) with
    | error failure =>
      have hLong : ¬ (read? line = some .report → robot.Fits) := by
        intro hFits
        rw [executeOrSkipGuarded_eq_ok_iff.mpr ⟨hFits, rfl⟩] at hStep
        cases hStep
      exact iff_of_false (Option.some_ne_none failure) fun h => hLong (hFirst.mp h.1)
    | ok outcome =>
      obtain ⟨hFits, rfl⟩ := executeOrSkipGuarded_eq_ok_iff.mp hStep
      exact ih.trans (and_iff_right (hFirst.mpr hFits)).symm

/-- A report of coordinates that are too long is where a guarded run ends. -/
theorem stepsGuarded_of_not_fits {board : Board} {read? : Line → Option Command} {pose : Pose}
    (hLong : ¬ pose.cell.Fits) {line : Line} (hRead : read? line = some .report) (number : Nat)
    (after : List Line) :
    board.stepsGuarded read? number (.placed pose) (line :: after) = ([], some .numeral) := by
  have hStep : board.executeOrSkipGuarded (.placed pose) (read? line) = .error .numeral := by
    rw [hRead]
    simp only [executeOrSkipGuarded, executeGuarded, announce_of_not_fits hLong]
  rw [stepsGuarded, hStep]

/-- Behind lines at which nothing goes wrong, a guarded run goes on from the robot they leave
behind. -/
theorem stepsGuarded_append {board : Board} {read? : Line → Option Command} {number : Nat}
    {robot : Robot} {lines : List Line}
    (h : (board.stepsGuarded read? number robot lines).2 = none) (others : List Line) :
    let rest := board.stepsGuarded read? (number + lines.length)
      (board.robotAfter read? robot lines) others
    board.stepsGuarded read? number robot (lines ++ others) =
      (board.stepsFrom read? number robot lines ++ rest.1, rest.2) := by
  induction lines generalizing number robot with
  | nil => rfl
  | cons line lines ih =>
    intro rest
    rw [stepsGuarded] at h
    rw [List.cons_append, stepsGuarded, stepsFrom_cons]
    cases hStep : board.executeOrSkipGuarded robot (read? line) with
    | error failure =>
      rw [hStep] at h
      cases h
    | ok outcome =>
      obtain ⟨-, rfl⟩ := executeOrSkipGuarded_eq_ok_iff.mp hStep
      rw [hStep] at h
      have hNumber : number + 1 + lines.length = number + (line :: lines).length := by
        rw [List.length_cons, Nat.add_assoc, Nat.add_comm 1]
      have hRest := ih h
      rw [hNumber] at hRest
      dsimp only
      rw [hRest]
      rfl

/-! ## Behind a placement -/

/-- A placement on the board goes wrong for no robot, and the robot before it has no part in what
comes behind it. -/
theorem stepsGuarded_placement {board : Board} {read? : Line → Option Command} {pose : Pose}
    (hOn : board.Holds pose.cell) {place : Line} (hRead : read? place = some (.place pose))
    (number : Nat) (robot other : Robot) (after : List Line) :
    board.stepsGuarded read? number robot (place :: after) =
      board.stepsGuarded read? number other (place :: after) := by
  have hStep : ∀ before : Robot, board.executeOrSkipGuarded before (read? place) =
      .ok ⟨.placed pose, none⟩ := by
    intro before
    rw [executeOrSkipGuarded_eq_ok_iff, hRead, executeOrSkip_place hOn]
    exact ⟨fun hReport => (by cases hReport), rfl⟩
  rw [stepsGuarded, stepsGuarded, hStep robot, hStep other]

/-- From a placement on the board on, a guarded run is the one that begins there with a robot that
has not been placed. -/
theorem stepsGuarded_behind_placement {board : Board} {read? : Line → Option Command} {pose : Pose}
    (hOn : board.Holds pose.cell) {place : Line} (hRead : read? place = some (.place pose))
    {start : Robot} {before : List Line} (hBefore : board.Completes read? start before)
    (after : List Line) :
    let run := board.stepsGuarded read? 1 start (before ++ place :: after)
    (renumberedFrom 1 (run.1.drop before.length), run.2) =
      board.stepsGuarded read? 1 .unplaced (place :: after) := by
  intro run
  have hRun : run = _ := stepsGuarded_append hBefore (place :: after)
  have hDrop : run.1.drop before.length =
      (board.stepsGuarded read? (1 + before.length) (board.robotAfter read? start before)
        (place :: after)).1 := by
    rw [hRun]
    exact List.drop_left' (length_stepsFrom board read? 1 start before)
  rw [hDrop, hRun, stepsGuarded_placement hOn hRead 1 .unplaced
    (board.robotAfter read? start before)]
  exact (stepsGuarded_renumbered board read? (1 + before.length) 1 _ (place :: after)).symm

/-- A placement on the board erases the past, if that has come to its end. Wherever two guarded runs
start, and whatever lines they go through before the placement, if nothing goes wrong at these, then
from the placement on the runs take the same steps over the same lines, and come to their end or go
wrong alike. Only the numbers of these steps may differ. -/
theorem placement_erases_past {board : Board} {pose : Pose} (hOn : board.Holds pose.cell)
    (start start' : Robot) :
    (∀ (place : Text) (before before' after : List Text),
      Command.ofLine? place = some (.place pose) →
      board.Completes Command.ofLine? start before →
      board.Completes Command.ofLine? start' before' →
      let run := board.stepsGuarded Command.ofLine? 1 start (before ++ place :: after)
      let run' := board.stepsGuarded Command.ofLine? 1 start' (before' ++ place :: after)
      renumberedFrom 1 (run.1.drop before.length) =
          renumberedFrom 1 (run'.1.drop before'.length) ∧
        run.2 = run'.2) ∧
    ∀ (place : Option Text) (before before' after : List (Option Text)),
      place.bind Command.ofLine? = some (.place pose) →
      board.Completes (·.bind Command.ofLine?) start before →
      board.Completes (·.bind Command.ofLine?) start' before' →
      let run := board.stepsGuarded (·.bind Command.ofLine?) 1 start (before ++ place :: after)
      let run' := board.stepsGuarded (·.bind Command.ofLine?) 1 start' (before' ++ place :: after)
      renumberedFrom 1 (run.1.drop before.length) =
          renumberedFrom 1 (run'.1.drop before'.length) ∧
        run.2 = run'.2 := by
  constructor
  · intro place before before' after hRead hBefore hBefore' run run'
    have hFirst := stepsGuarded_behind_placement hOn hRead hBefore after
    have hSecond := stepsGuarded_behind_placement hOn hRead hBefore' after
    exact Prod.mk.inj (hFirst.trans hSecond.symm)
  · intro place before before' after hRead hBefore hBefore' run run'
    let read? : Option Text → Option Command := (·.bind Command.ofLine?)
    have hPlace : read? place = some (.place pose) := hRead
    have hFirst := stepsGuarded_behind_placement hOn hPlace hBefore after
    have hSecond := stepsGuarded_behind_placement hOn hPlace hBefore' after
    exact Prod.mk.inj (hFirst.trans hSecond.symm)

/-- A robot that has turned and moved, and one that stands off the board and has reported that. -/
theorem placement_erases_turns_and_moves :
    let board := Board.mk 5 5
    let start : Robot := .placed ⟨⟨-7, 9⟩, .south⟩
    let before : List Text := ["PLACE 4,4,EAST".toList, "LEFT".toList, "MOVE".toList]
    let before' : List Text := ["REPORT".toList]
    let place : Text := " place 2,+3,west".toList
    let after : List Text := ["MOVE".toList, "REPORT".toList]
    let run := board.stepsGuarded Command.ofLine? 1 .unplaced (before ++ place :: after)
    let run' := board.stepsGuarded Command.ofLine? 1 start (before' ++ place :: after)
    board.Holds ⟨2, 3⟩ ∧ Command.ofLine? place = some (.place ⟨⟨2, 3⟩, .west⟩) ∧
      board.Completes Command.ofLine? .unplaced before ∧
      board.Completes Command.ofLine? start before' ∧
      renumberedFrom 1 (run.1.drop 3) = renumberedFrom 1 (run'.1.drop 1) ∧ run.2 = run'.2 := by
  intro board start before before' place after run run'
  have hOn : board.Holds (⟨⟨2, 3⟩, .west⟩ : Pose).cell := by decide
  have hRead : Command.ofLine? place = some (.place ⟨⟨2, 3⟩, .west⟩) := rfl
  have hBefore : board.Completes Command.ofLine? .unplaced before := rfl
  have hBefore' : board.Completes Command.ofLine? start before' := by
    have hFits : start.Fits := Robot.fits_placed.mpr
      ⟨Numeral.fits_iff.mpr (by decide), Numeral.fits_iff.mpr (by decide)⟩
    have hSteps : board.stepsFrom Command.ofLine? 1 start before' =
        [⟨1, "REPORT".toList, some .report, ⟨start, some "-7,9,SOUTH".toList⟩⟩] := rfl
    rw [Completes, stepsGuarded_eq_none_iff, hSteps, List.forall_mem_singleton]
    exact fun _ => hFits
  obtain ⟨hErased, -⟩ := placement_erases_past hOn .unplaced start
  exact ⟨hOn, hRead, hBefore, hBefore', hErased place before before' after hRead hBefore hBefore'⟩

/-- A robot too far away for its report to be written never comes to the placement behind the
report. -/
theorem far_report_keeps_from_placement :
    let board := Board.mk 5 5
    let start : Robot := .placed ⟨⟨10 ^ 4300, 0⟩, .north⟩
    let place : Text := "PLACE 0,0,NORTH".toList
    let run := board.stepsGuarded Command.ofLine? 1 start (["REPORT".toList] ++ [place])
    let run' := board.stepsGuarded Command.ofLine? 1 .unplaced ([] ++ [place])
    board.Holds ⟨0, 0⟩ ∧ Command.ofLine? place = some (.place ⟨⟨0, 0⟩, .north⟩) ∧
      run = ([], some .numeral) ∧
      renumberedFrom 1 (run.1.drop 1) ≠ renumberedFrom 1 (run'.1.drop 0) := by
  intro board start place run run'
  have hLong : ¬ (⟨⟨10 ^ 4300, 0⟩, .north⟩ : Pose).cell.Fits := fun hFits =>
    lt_irrefl _ hFits.1.lt
  have hRead : Command.ofLine? "REPORT".toList = some .report := rfl
  have hRun : run = ([], some .numeral) := stepsGuarded_of_not_fits hLong hRead 1 [place]
  have hRun' : run'.1 = [⟨1, place, some (.place ⟨⟨0, 0⟩, .north⟩),
      ⟨.placed ⟨⟨0, 0⟩, .north⟩, none⟩⟩] := rfl
  refine ⟨by decide, rfl, hRun, ?_⟩
  rw [hRun, hRun']
  exact (List.cons_ne_nil _ _).symm

end Board

end Tabletop
