import Tabletop.Proofs.Run.Outcomes

/-!
# Robots stay on the board

No step takes a robot off the board: it leaves the robot on its cell or brings it to a cell of the
board (`keepsCell_of_transition`). So a robot stands on the cell it started on or on the board, one
that is on the board stays there, and one that was not placed at the start is on the board as soon
as it is placed. This is proved once for a series of outcomes (`keeps_outcomes`) and holds for
requests and for lines (`robot_never_falls_off`).
-/

namespace Tabletop

namespace Board

/-- The robot stands on a cell of the board. -/
def Hosts (board : Board) (robot : Robot) : Prop :=
  ∃ cell, robot.cell? = some cell ∧ board.Holds cell

/-- The robot is on the same cell as before, or on the board. -/
def KeepsCell (board : Board) (before after : Robot) : Prop :=
  after.cell? = before.cell? ∨ board.Hosts after

/-- What holds of the outcomes of a series that begins with the robot `start`. -/
structure Keeps (board : Board) (start : Robot) (outcomes : List Outcome) : Prop where
  /-- A robot has a cell and a heading, or neither. -/
  paired : ∀ outcome ∈ outcomes, outcome.robot.cell?.isSome = outcome.robot.heading?.isSome
  /-- A robot stands on the cell it started on, or on the board. -/
  safe : ∀ outcome ∈ outcomes, ∀ cell, outcome.robot.cell? = some cell →
    start.cell? = some cell ∨ board.Holds cell
  /-- Of any two robots, the later is on the board if the earlier is. -/
  stays : List.Pairwise (fun before after => board.Hosts before → board.Hosts after)
    (start :: outcomes.map Outcome.robot)
  /-- A robot that was not placed at the start is placed on the board only. -/
  placed : start = .unplaced → ∀ outcome ∈ outcomes, ∀ cell, outcome.robot.cell? = some cell →
    board.Holds cell
  /-- A robot that was not placed at the start reports cells of the board only. -/
  reported : start = .unplaced → ∀ outcome ∈ outcomes, ∀ report, outcome.report = some report →
    ∃ pose, outcome.robot = .placed pose ∧ report = pose.report ∧ board.Holds pose.cell

theorem Hosts.holds {board : Board} {robot : Robot} (h : board.Hosts robot) {cell : Cell}
    (hCell : robot.cell? = some cell) : board.Holds cell := by
  obtain ⟨other, hOther, hHolds⟩ := h
  rw [hCell] at hOther
  cases hOther
  exact hHolds

/-! ## One step -/

theorem keepsCell_of_transition {board : Board} {before : Robot} {command : Option Command}
    {outcome : Outcome} (h : board.Transition before command outcome) :
    board.KeepsCell before outcome.robot := by
  cases h with
  | placed hOn => exact Or.inr ⟨_, rfl, hOn⟩
  | moved hOn => exact Or.inr ⟨_, rfl, hOn⟩
  | refused hOff => exact Or.inl rfl
  | blocked hOff => exact Or.inl rfl
  | turnedLeft => exact Or.inl rfl
  | turnedRight => exact Or.inl rfl
  | reported => exact Or.inl rfl
  | unready hOther => exact Or.inl rfl
  | skipped => exact Or.inl rfl

theorem report_of_transition {board : Board} {before : Robot} {command : Option Command}
    {outcome : Outcome} (h : board.Transition before command outcome) {report : Text}
    (hReport : outcome.report = some report) :
    ∃ pose, outcome.robot = .placed pose ∧ report = pose.report := by
  cases h <;> cases hReport
  exact ⟨_, rfl, rfl⟩

theorem hosts_of_keepsCell {board : Board} {before after : Robot}
    (h : board.KeepsCell before after) (hBefore : board.Hosts before) : board.Hosts after := by
  rcases h with hSame | hAfter
  · unfold Hosts at hBefore ⊢
    rwa [hSame]
  · exact hAfter

theorem keepsCell_trans {board : Board} {first second third : Robot}
    (h : board.KeepsCell first second) (g : board.KeepsCell second third) :
    board.KeepsCell first third := by
  rcases g with hSame | hOn
  · rcases h with hFirst | hOn
    · exact Or.inl (hSame.trans hFirst)
    · exact Or.inr (hosts_of_keepsCell (Or.inl hSame) hOn)
  · exact Or.inr hOn

/-! ## A series of steps -/

theorem pairwise_keepsCell (board : Board) (start : Robot) (commands : List (Option Command)) :
    List.Pairwise board.KeepsCell
      (start :: (board.outcomes start commands).map Outcome.robot) := by
  have hTrans : ∀ first second third, board.KeepsCell first second →
      board.KeepsCell second third → board.KeepsCell first third := fun _ _ _ => keepsCell_trans
  exact pairwise_outcomes hTrans (fun _ _ _ => keepsCell_of_transition) start commands

theorem keeps_outcomes (board : Board) (start : Robot) (commands : List (Option Command)) :
    board.Keeps start (board.outcomes start commands) := by
  have hPairwise := pairwise_keepsCell board start commands
  have hSafe : ∀ outcome ∈ board.outcomes start commands, ∀ cell,
      outcome.robot.cell? = some cell → start.cell? = some cell ∨ board.Holds cell := by
    intro outcome hOutcome cell hCell
    rcases List.rel_of_pairwise_cons hPairwise (List.mem_map_of_mem hOutcome) with hSame | hOn
    · exact Or.inl (hSame ▸ hCell)
    · exact Or.inr (hOn.holds hCell)
  have hPlaced : start = .unplaced → ∀ outcome ∈ board.outcomes start commands, ∀ cell,
      outcome.robot.cell? = some cell → board.Holds cell := by
    rintro rfl outcome hOutcome cell hCell
    rcases hSafe outcome hOutcome cell hCell with hStart | hHolds
    · cases hStart
    · exact hHolds
  refine ⟨fun outcome _ => ?_, hSafe, hPairwise.imp hosts_of_keepsCell, hPlaced, ?_⟩
  · cases outcome.robot <;> rfl
  · intro hStart outcome hOutcome report hReport
    obtain ⟨before, command, hStep⟩ := exists_before_of_mem_outcomes hOutcome
    obtain ⟨pose, hPose, rfl⟩ := report_of_transition hStep hReport
    exact ⟨pose, hPose, rfl, hPlaced hStart outcome hOutcome pose.cell (by rw [hPose]; rfl)⟩

/-- Whatever is requested of a robot, and whatever lines it is given, it does not fall off the
board. No request is refused on the way. -/
theorem robot_never_falls_off (board : Board) (start : Robot) :
    (∀ requests : List Request, ∃ outcomes : List Outcome,
      board.executeAll (some start) (requests.map some) = outcomes.map .ok ∧
        outcomes.length = requests.length ∧ board.Keeps start outcomes) ∧
    (∀ lines : List Text, board.Keeps start ((board.runFrom start lines).map Step.outcome)) ∧
    ∀ lines : List (Option Text),
      board.Keeps start ((board.runSparse start lines).map Step.outcome) := by
  refine ⟨fun requests => ?_, fun lines => ?_, fun lines => ?_⟩
  · exact ⟨_, executeAll_map_some board start requests, by simp, keeps_outcomes board start _⟩
  · unfold runFrom
    rw [map_outcome_stepsFrom]
    exact keeps_outcomes board start _
  · unfold runSparse
    rw [map_outcome_stepsFrom]
    exact keeps_outcomes board start _

end Board

end Tabletop
