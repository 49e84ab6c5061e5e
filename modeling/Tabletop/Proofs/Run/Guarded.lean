import Tabletop.Guarded
import Tabletop.Proofs.Run.Replay

/-!
# Guarded runs come to their end

Nothing can go wrong at a step but a report, and a report of a robot whose coordinates have at most
4300 digits is written within the limit (`executeOrSkipGuarded_eq_ok_iff`). On a board whose sides
have no more digits than that every step leaves such a robot behind (`fits_executeOrSkip`), since it
stays on its cell or comes to the board. So a guarded run takes every step of the run it guards, and
all that these steps show can be written (`no_run_fails_on_numeral`). A refused placement is shown
as well, but its coordinates were read, and what can be read can be written.
-/

namespace Tabletop

/-! ## Writing -/

theorem Numeral.write?_eq_some_iff {n : Int} {t : Text} :
    write? n = some t ↔ Fits n ∧ t = write n := by
  have hLimit (k : Nat) : n.natAbs < Nat.pow 10 k ↔ n.natAbs < 10 ^ k := Iff.rfl
  rw [write?, Option.ite_none_right_eq_some, hLimit, Option.some.injEq, digitLimit, Fits,
    eq_comm (a := t)]

theorem Numeral.Fits.lt {n : Int} (h : Fits n) : n < 10 ^ 4300 := by
  have hCast (k : Nat) (hk : n.natAbs < 10 ^ k) : n < 10 ^ k := by
    have hLe : n ≤ (n.natAbs : Int) := Int.le_natAbs
    have hLt : (n.natAbs : Int) < ((10 ^ k : Nat) : Int) := Int.ofNat_lt.mpr hk
    rw [Nat.cast_pow, Nat.cast_ofNat] at hLt
    exact hLe.trans_lt hLt
  exact hCast 4300 h

/-- A report can be written exactly if both its coordinates can. -/
theorem Pose.write?_eq_some_iff {pose : Pose} {t : Text} :
    pose.write? = some t ↔ pose.cell.Fits ∧ t = pose.report := by
  constructor
  · intro h
    unfold write? at h
    obtain ⟨x, hx, h⟩ := Option.bind_eq_some_iff.mp h
    obtain ⟨y, hy, h⟩ := Option.bind_eq_some_iff.mp h
    obtain ⟨hFitsX, rfl⟩ := Numeral.write?_eq_some_iff.mp hx
    obtain ⟨hFitsY, rfl⟩ := Numeral.write?_eq_some_iff.mp hy
    exact ⟨⟨hFitsX, hFitsY⟩, (Option.some.inj h).symm⟩
  · rintro ⟨⟨hFitsX, hFitsY⟩, rfl⟩
    rw [write?, Numeral.write?_eq_some_iff.mpr ⟨hFitsX, rfl⟩,
      Numeral.write?_eq_some_iff.mpr ⟨hFitsY, rfl⟩]
    rfl

theorem Pose.write?_of_fits {pose : Pose} (h : pose.cell.Fits) : pose.write? = some pose.report :=
  write?_eq_some_iff.mpr ⟨h, rfl⟩

/-- The coordinates of the robot, if it has any, fit into the numerals that can be read. -/
def Robot.Fits (robot : Robot) : Prop := ∀ pose, robot = .placed pose → pose.cell.Fits

theorem Robot.fits_unplaced : Robot.unplaced.Fits := fun _ hPose => nomatch hPose

theorem Robot.fits_placed {pose : Pose} : (Robot.placed pose).Fits ↔ pose.cell.Fits :=
  ⟨fun h => h pose rfl, fun h _ hPose => Robot.placed.inj hPose ▸ h⟩

theorem Robot.write?_of_fits {robot : Robot} (h : robot.Fits) :
    robot.write? = some robot.label := by
  cases robot with
  | unplaced => rfl
  | placed pose => exact Pose.write?_of_fits (h pose rfl)

theorem Command.write?_ofLine? (line : Text) :
    write? (ofLine? line) = some (label? (ofLine? line)) := by
  cases hRead : ofLine? line with
  | none => rfl
  | some command =>
    have hFits := fits_of_ofLine? hRead
    cases command with
    | place pose =>
      have hPose : pose.write? = some pose.report := Pose.write?_of_fits hFits
      rw [write?_place, hPose, Option.map_some]
      rfl
    | _ => rfl

namespace Board

variable {Line : Type}

/-! ## One step -/

theorem announce_of_fits {pose : Pose} (h : pose.cell.Fits) :
    announce pose = .ok ⟨.placed pose, some pose.report⟩ := by
  rw [announce, Pose.write?_of_fits h, Option.elim_some]

theorem announce_of_not_fits {pose : Pose} (h : ¬ pose.cell.Fits) :
    announce pose = .error .numeral := by
  have hNone : pose.write? = none :=
    Option.eq_none_iff_forall_ne_some.mpr fun _ hSome => h (Pose.write?_eq_some_iff.mp hSome).1
  rw [announce, hNone, Option.elim_none]

theorem announce_eq_ok_iff {pose : Pose} {outcome : Outcome} :
    announce pose = .ok outcome ↔
      (Robot.placed pose).Fits ∧ ⟨.placed pose, some pose.report⟩ = outcome := by
  rw [Robot.fits_placed]
  by_cases hFits : pose.cell.Fits
  · simp [announce_of_fits hFits, hFits]
  · simp [announce_of_not_fits hFits, hFits]

/-- Only a report can go wrong at a step, that of a robot whose coordinates are too long. Any other
guarded step is the step it guards. -/
theorem executeOrSkipGuarded_eq_ok_iff {board : Board} {robot : Robot} {command : Option Command}
    {outcome : Outcome} :
    board.executeOrSkipGuarded robot command = .ok outcome ↔
      (command = some .report → robot.Fits) ∧ board.executeOrSkip robot command = outcome := by
  have hStep := transition_executeOrSkip board robot command
  generalize board.executeOrSkip robot command = expected at hStep ⊢
  cases hStep with
  | placed hOn => simp [executeOrSkipGuarded, executeGuarded, hOn, assemble, Robot.ofParts?]
  | refused hOff => simp [executeOrSkipGuarded, executeGuarded, hOff]
  | moved hOn => simp [executeOrSkipGuarded, executeGuarded, hOn, assemble, Robot.ofParts?]
  | blocked hOff => simp [executeOrSkipGuarded, executeGuarded, hOff]
  | turnedLeft => simp [executeOrSkipGuarded, executeGuarded, assemble, Robot.ofParts?]
  | turnedRight => simp [executeOrSkipGuarded, executeGuarded, assemble, Robot.ofParts?]
  | reported => simpa [executeOrSkipGuarded, executeGuarded] using announce_eq_ok_iff
  | @unready command hOther =>
    cases command with
    | place pose => exact absurd rfl (hOther pose)
    | _ => simp [executeOrSkipGuarded, executeGuarded, Robot.fits_unplaced]
  | skipped => simp [executeOrSkipGuarded]

theorem fits_executeOrSkip {board : Board} (hBoard : board.Fits) {robot : Robot}
    (hRobot : robot.Fits) (command : Option Command) :
    (board.executeOrSkip robot command).robot.Fits := by
  intro pose hPose
  have hCell : (board.executeOrSkip robot command).robot.cell? = some pose.cell := by
    rw [hPose]
    rfl
  rcases keepsCell_of_transition (transition_executeOrSkip board robot command) with
    hSame | hHosts
  · rw [hSame] at hCell
    cases robot with
    | unplaced => cases hCell
    | placed before =>
      have hBefore : before.cell = pose.cell := Option.some.inj hCell
      exact hBefore ▸ hRobot before rfl
  · exact fits_of_holds hBoard (hHosts.holds hCell)

/-! ## Runs -/

/-- Even if it breaks off, a guarded run takes the first steps of the run it guards. -/
theorem stepsGuarded_prefix (board : Board) (read? : Line → Option Command) (number : Nat)
    (robot : Robot) (lines : List Line) :
    (board.stepsGuarded read? number robot lines).1 <+:
      board.stepsFrom read? number robot lines := by
  induction lines generalizing number robot with
  | nil => exact List.prefix_refl []
  | cons line lines ih =>
    rw [stepsGuarded, stepsFrom_cons]
    cases hStep : board.executeOrSkipGuarded robot (read? line) with
    | error failure => exact List.nil_prefix
    | ok outcome =>
      rw [(executeOrSkipGuarded_eq_ok_iff.mp hStep).2]
      exact List.cons_prefix_cons.mpr ⟨rfl, ih (number + 1) outcome.robot⟩

theorem stepsGuarded_of_fits {board : Board} (hBoard : board.Fits)
    (read? : Line → Option Command) (number : Nat) {robot : Robot} (hRobot : robot.Fits)
    (lines : List Line) :
    board.stepsGuarded read? number robot lines =
      (board.stepsFrom read? number robot lines, none) := by
  induction lines generalizing number robot with
  | nil => rfl
  | cons line lines ih =>
    have hStep : board.executeOrSkipGuarded robot (read? line) =
        .ok (board.executeOrSkip robot (read? line)) :=
      executeOrSkipGuarded_eq_ok_iff.mpr ⟨fun _ => hRobot, rfl⟩
    have hNext := fits_executeOrSkip hBoard hRobot (read? line)
    rw [stepsGuarded, hStep, stepsFrom_cons]
    dsimp only
    rw [ih (number + 1) hNext]

/-- The command of a step is what was read at some line. -/
theorem exists_line_of_mem_stepsFrom {board : Board} {read? : Line → Option Command}
    {number : Nat} {robot : Robot} {lines : List Line} {step : Step Line}
    (h : step ∈ board.stepsFrom read? number robot lines) : step.command = read? step.line := by
  obtain ⟨k, hStep⟩ := List.mem_iff_getElem?.mp h
  rw [getElem?_stepsFrom] at hStep
  obtain ⟨line, -, rfl⟩ := Option.map_eq_some_iff.mp hStep
  rfl

/-- On a board whose sides have at most 4300 digits, a guarded run takes every step of the run, one
for each line, and nothing goes wrong. Placements that are read have coordinates of at most 4300
digits, and so has every robot on the run; none of its coordinates is negative. So whatever a step
shows can be written: what was read, where the robot is, and its report. -/
theorem no_run_fails_on_numeral {board : Board} (hBoard : board.Fits) (lines : List Text) :
    board.runGuarded lines = (board.run lines, none) ∧
    (board.run lines).length = lines.length ∧
    (∀ line pose, Command.ofLine? line = some (.place pose) →
      pose.cell.x.natAbs < 10 ^ 4300 ∧ pose.cell.y.natAbs < 10 ^ 4300) ∧
    ∀ step ∈ board.run lines,
      Command.write? step.command = some (Command.label? step.command) ∧
      step.robot.write? = some step.robot.label ∧
      ∀ pose, step.robot = .placed pose →
        pose.write? = some pose.report ∧
        (0 ≤ pose.cell.x ∧ pose.cell.x < 10 ^ 4300) ∧
        (0 ≤ pose.cell.y ∧ pose.cell.y < 10 ^ 4300) := by
  refine ⟨stepsGuarded_of_fits hBoard _ 1 Robot.fits_unplaced lines,
    length_stepsFrom board _ 1 _ lines, fun line pose hRead => Command.fits_of_ofLine? hRead,
    fun step hStep => ?_⟩
  have hCommand : step.command = Command.ofLine? step.line := exists_line_of_mem_stepsFrom hStep
  have hHolds (pose : Pose) (hPose : step.robot = .placed pose) : board.Holds pose.cell :=
    holds_of_mem_stepsFrom hStep hPose
  have hFits : step.robot.Fits := fun pose hPose => fits_of_holds hBoard (hHolds pose hPose)
  refine ⟨?_, Robot.write?_of_fits hFits, fun pose hPose => ⟨?_, ?_, ?_⟩⟩
  · rw [hCommand]
    exact Command.write?_ofLine? step.line
  · exact Pose.write?_of_fits (hFits pose hPose)
  · exact ⟨(hHolds pose hPose).1.1, (hFits pose hPose).1.lt⟩
  · exact ⟨(hHolds pose hPose).2.1, (hFits pose hPose).2.lt⟩

/-- A placement far off the board is refused, and shown all the same. -/
theorem no_run_fails_on_far_placement :
    let board := Board.mk 3 2
    let lines : List Text :=
      ["REPORT".toList, "PLACE 2,1,EAST".toList, "PLACE -99999999999999999999,7,WEST".toList,
        "MOVE".toList, "REPORT".toList]
    let refused : Command := .place ⟨⟨-99999999999999999999, 7⟩, .west⟩
    board.Fits ∧ board.runGuarded lines = (board.run lines, none) ∧
      (board.run lines)[2]? = some ⟨3, "PLACE -99999999999999999999,7,WEST".toList, some refused,
        ⟨.placed ⟨⟨2, 1⟩, .east⟩, none⟩⟩ ∧
      Command.write? (some refused) = some "PLACE -99999999999999999999,7,WEST".toList ∧
      Robot.write? (.placed ⟨⟨2, 1⟩, .east⟩) = some "2,1,EAST".toList := by
  intro board lines refused
  have hBoard : board.Fits := ⟨Numeral.fits_iff.mpr (by decide), Numeral.fits_iff.mpr (by decide)⟩
  have hStep : (board.run lines)[2]? = some ⟨3, "PLACE -99999999999999999999,7,WEST".toList,
      some refused, ⟨.placed ⟨⟨2, 1⟩, .east⟩, none⟩⟩ := rfl
  obtain ⟨hRun, -, -, hShown⟩ := no_run_fails_on_numeral hBoard lines
  obtain ⟨hCommand, hRobot, -⟩ := hShown _ (List.mem_of_getElem? hStep)
  exact ⟨hBoard, hRun, hStep, hCommand, hRobot⟩

end Board

end Tabletop
