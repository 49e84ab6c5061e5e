import Tabletop.Proofs.Console.Printed
import Tabletop.Proofs.Console.Wrap
import Tabletop.Proofs.Run.Outcomes
import Tabletop.Proofs.Text.Numeral

/-!
# Labels of printed ASCII

What is shown of a command, of a robot and of a report consists of numerals and of words of the
library. All their characters are printed ones of ASCII (`Text.IsPrintedAscii`), of which none is a
control and each takes one cell, so that a label never ends a line and is as wide as it is long.
-/

namespace Tabletop

namespace Text

/-- Only spaces and the printed characters of ASCII stand in the text. -/
def IsPrintedAscii (t : Text) : Prop := ∀ c ∈ t, 0x20 ≤ c.toNat ∧ c.toNat < 0x7f

instance (t : Text) : Decidable (IsPrintedAscii t) := List.decidableBAll _ t

theorem isPrintedAscii_append {s t : Text} :
    IsPrintedAscii (s ++ t) ↔ IsPrintedAscii s ∧ IsPrintedAscii t :=
  List.forall_mem_append

theorem isPrintedAscii_cons {c : Char} {t : Text} :
    IsPrintedAscii (c :: t) ↔ (0x20 ≤ c.toNat ∧ c.toNat < 0x7f) ∧ IsPrintedAscii t :=
  List.forall_mem_cons

theorem IsPrintedAscii.controlFree {t : Text} (h : IsPrintedAscii t) : ControlFree t := by
  intro c hc
  have hRange := h c hc
  simp [isControl]
  omega

theorem IsPrintedAscii.charCells {t : Text} (h : IsPrintedAscii t) :
    ∀ c ∈ t, Console.charCells c = 1 := by
  have hZeroWidth : ∀ range ∈ Console.zeroWidthRanges, range.2 < 0x20 ∨ 0x7f ≤ range.1 := by
    decide +kernel
  have hWide : ∀ range ∈ Console.wideRanges, 0x7f ≤ range.1 := by decide +kernel
  intro c hc
  have hRange := h c hc
  rw [Console.charCells, if_neg, if_neg]
  · rw [Ranges.holds_iff]
    rintro ⟨range, hMem, hLow, hHigh⟩
    have hBeyond := hWide range hMem
    omega
  · rw [Ranges.holds_iff]
    rintro ⟨range, hMem, hLow, hHigh⟩
    have hBeside := hZeroWidth range hMem
    omega

theorem IsPrintedAscii.cells {t : Text} (h : IsPrintedAscii t) : Console.cells t = t.length :=
  Console.cellsAfter_eq_length h.charCells none

theorem isPrintedAscii_write (n : Int) : IsPrintedAscii (Numeral.write n) := by
  intro c hc
  rcases Numeral.mem_write hc with rfl | hDigit
  · decide
  · have hRange := Char.isDigit_iff_toNat.mp hDigit
    simp only [Char.reduceToNat] at hRange
    omega

end Text

/-! ## Labels -/

theorem Pose.isPrintedAscii_report (pose : Pose) : pose.report.IsPrintedAscii := by
  have hName : pose.heading.name.IsPrintedAscii := by cases pose.heading <;> decide
  rw [report, Text.isPrintedAscii_append, Text.isPrintedAscii_cons, Text.isPrintedAscii_append,
    Text.isPrintedAscii_cons]
  exact ⟨Text.isPrintedAscii_write _, by decide, Text.isPrintedAscii_write _, by decide, hName⟩

theorem Command.isPrintedAscii_label? (command : Option Command) :
    (Command.label? command).IsPrintedAscii := by
  cases command with
  | none => decide
  | some command =>
    cases command with
    | place pose => exact Text.isPrintedAscii_append.mpr ⟨by decide, pose.isPrintedAscii_report⟩
    | move => decide
    | left => decide
    | right => decide
    | report => decide

theorem Robot.isPrintedAscii_label (robot : Robot) : robot.label.IsPrintedAscii := by
  cases robot with
  | unplaced => decide
  | placed pose => exact pose.isPrintedAscii_report

/-- A robot says nothing but printed ASCII. -/
theorem Board.Transition.isPrintedAscii_report {board : Board} {robot : Robot}
    {command : Option Command} {outcome : Outcome} (h : board.Transition robot command outcome) :
    (outcome.report.getD []).IsPrintedAscii := by
  cases h with
  | @reported pose => exact pose.isPrintedAscii_report
  | _ => exact fun c hc => absurd hc List.not_mem_nil

end Tabletop
