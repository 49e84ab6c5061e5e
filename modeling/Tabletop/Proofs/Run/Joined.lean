import Tabletop.Proofs.Run.Parts
import Tabletop.Proofs.Text.Lines

/-!
# Runs over joined lists

The run over two lists one after the other is the run over the first and then the run over the
second, from the robot that the first leaves behind and counted on from there. Two texts can be
joined like this wherever a line ends between them (`runs_and_texts_join`).
-/

namespace Tabletop

namespace Board

variable {Line : Type}

theorem stepsFrom_append_laterBy (board : Board) (read? : Line → Option Command) (start : Robot)
    (lines others : List Line) :
    board.stepsFrom read? 1 start (lines ++ others) =
      board.stepsFrom read? 1 start lines ++
        (board.stepsFrom read? 1 (lastRobot start (board.stepsFrom read? 1 start lines))
          others).map (Step.laterBy lines.length) := by
  rw [stepsFrom_append, lastRobot_stepsFrom, map_laterBy_stepsFrom]

/-- The run over one list after the other is the run over the one and then the run over the other,
from where the first run ended and counted on from there. If a line ends where two texts meet, the
lines of the two together are those of the one and then those of the other, so that running them as
one text is running the one and then the other. -/
theorem runs_and_texts_join (board : Board) (start : Robot) :
    (∀ lines others : List Text, board.runFrom start (lines ++ others) =
      board.runFrom start lines ++
        (board.runFrom (lastRobot start (board.runFrom start lines)) others).map
          (Step.laterBy lines.length)) ∧
    (∀ lines others : List (Option Text), board.runSparse start (lines ++ others) =
      board.runSparse start lines ++
        (board.runSparse (lastRobot start (board.runSparse start lines)) others).map
          (Step.laterBy lines.length)) ∧
    ∀ first second : Text, first.ClosedBefore second →
      (first ++ second).lines = first.lines ++ second.lines ∧
      board.runFrom start (first ++ second).lines =
        board.runFrom start first.lines ++
          (board.runFrom (lastRobot start (board.runFrom start first.lines))
            second.lines).map (Step.laterBy first.lines.length) := by
  refine ⟨board.stepsFrom_append_laterBy _ start, board.stepsFrom_append_laterBy _ start, ?_⟩
  intro first second hClosed
  have hLines : (first ++ second).lines = first.lines ++ second.lines := Text.lines_append hClosed
  refine ⟨hLines, ?_⟩
  rw [hLines]
  exact board.stepsFrom_append_laterBy _ start first.lines second.lines

/-- A text that ends with a carriage return, before one that starts with another. -/
theorem runs_and_texts_join_at_return :
    let board := Board.mk 5 5
    let first : Text := "PLACE 1,2,EAST\r\nMOVE\r".toList
    let second : Text := "\rREPORT".toList
    first.ClosedBefore second ∧
      (first ++ second).lines = ["PLACE 1,2,EAST".toList, "MOVE".toList, [], "REPORT".toList] ∧
      board.runFrom .unplaced (first ++ second).lines =
        board.runFrom .unplaced ["PLACE 1,2,EAST".toList, "MOVE".toList] ++
          (board.runFrom (.placed ⟨⟨2, 2⟩, .east⟩) [[], "REPORT".toList]).map (Step.laterBy 2) := by
  intro board first second
  have hClosed : first.ClosedBefore second := by decide
  obtain ⟨-, -, hTexts⟩ := runs_and_texts_join board .unplaced
  obtain ⟨hLines, hRun⟩ := hTexts first second hClosed
  exact ⟨hClosed, hLines, hRun⟩

end Board

end Tabletop
