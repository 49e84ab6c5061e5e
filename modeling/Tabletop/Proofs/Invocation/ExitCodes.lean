import Tabletop.Proofs.Invocation.Boundary
import Tabletop.Proofs.Source.Agreement

/-!
# What a failed invocation leaves behind

An invocation that asks for a run, and can tell what goes wrong, ends with an exit code that names
the first failure: the sides that make no board, whatever the source may be, and then what came of
reading the source. With the lines at hand nothing fails any more (`exit_code_tells_failure`).

The board is made and the whole source is read before the first line is executed. So unless an
invocation ends with success its standard output is empty, however far the source could be read.
-/

namespace Tabletop

/-- The number with which an invocation ends, unless a message could not be shown. -/
def Ended.code? (ended : Ended) : Option Nat :=
  match ended.ending with
  | .exit code => some code.toNat
  | .fault _ => none

/-- The value is a positive whole number. -/
def Literal.IsPositive (value : Literal) : Prop := ∃ n : Int, value = .whole n ∧ 0 < n

/-- The exit code of a run on a board, by what came of reading its source. -/
def Source.codeOfRead : Except ReadFailure (List Text) → Nat
  | .ok _ => 0
  | .error (.source _) => 1
  | .error (.crash _) => 2
  | .error .interrupted => 130

theorem Board.exists_ofLiterals?_iff {width height : Literal} :
    (∃ board, ofLiterals? width height = .ok board) ↔ width.IsPositive ∧ height.IsPositive := by
  constructor
  · rintro ⟨board, hBoard⟩
    obtain ⟨hWidth, hHeight⟩ := ofLiterals?_eq_ok_iff.mp hBoard
    exact ⟨⟨_, hWidth, board.width_pos⟩, _, hHeight, board.height_pos⟩
  · rintro ⟨⟨w, rfl, hw⟩, h, rfl, hh⟩
    exact ⟨⟨w, h, hw, hh⟩, ofLiterals?_eq_ok_iff.mpr ⟨rfl, rfl⟩⟩

namespace Invocation

variable {arguments : List Text} {around : Surroundings}

/-! ## The code -/

/-- Without markup every trouble can be told. -/
theorem code?_of_meets {trouble : Trouble} (hPlain : around.styled = false)
    (h : Meets arguments around trouble) :
    (invoke arguments around).code? = some trouble.exitCode.toNat := by
  rw [invoke_of_meets h]
  obtain ⟨code, hCode⟩ := (endWith_exit_iff around [] [] trouble).mpr fun hStuck => by
    rw [hPlain] at hStuck
    exact Bool.noConfusion hStuck.1
  rw [Ended.code?, hCode, exitCode_of_endWith hCode]

theorem code?_of_not_positive {settings : Settings} (hPlain : around.styled = false)
    (hRun : Options.read arguments = .ok (.run settings))
    (hSides : ¬ (settings.width.IsPositive ∧ settings.height.IsPositive)) :
    (invoke arguments around).code? = some 1 := by
  cases hBoard : Board.ofLiterals? settings.width settings.height with
  | ok board => exact absurd (Board.exists_ofLiterals?_iff.mp ⟨board, hBoard⟩) hSides
  | error sides => exact code?_of_meets hPlain (.board hRun hBoard)

theorem code?_of_positive {settings : Settings} (hPlain : around.styled = false)
    (hRun : Options.read arguments = .ok (.run settings)) (hWidth : settings.width.IsPositive)
    (hHeight : settings.height.IsPositive) :
    (invoke arguments around).code? =
      some (Source.codeOfRead (Source.read around.openFile around.input settings.source)) := by
  obtain ⟨board, hBoard⟩ := Board.exists_ofLiterals?_iff.mpr ⟨hWidth, hHeight⟩
  cases hLines : Source.read around.openFile around.input settings.source with
  | error failure =>
    rw [code?_of_meets hPlain (.source hRun hBoard hLines)]
    cases failure <;> rfl
  | ok lines =>
    rw [Ended.code?, ending_of_read hRun hBoard hLines]
    rfl

/-! ## The output -/

theorem output_of_misused {cause : UsageError} (h : Options.read arguments = .error cause) :
    (invoke arguments around).output = [] := by
  simp only [invoke, h]

theorem output_of_meets {trouble : Trouble} (h : Meets arguments around trouble) :
    (invoke arguments around).output = [] := by
  rw [invoke_of_meets h, output_endWith]

/-- On a console without markup, an invocation that asks for a run ends with exit code one if the
sides it was given make no board, and otherwise with the code that belongs to what came of reading
its source. On any console, an invocation that does not end with exit code zero has written nothing
to the standard output. -/
theorem exit_code_tells_failure (arguments : List Text) (around : Surroundings) :
    (∀ settings, Options.read arguments = .ok (.run settings) → around.styled = false →
      (¬ (settings.width.IsPositive ∧ settings.height.IsPositive) →
        (invoke arguments around).code? = some 1) ∧
      (settings.width.IsPositive → settings.height.IsPositive →
        (invoke arguments around).code? =
          some (Source.codeOfRead (Source.read around.openFile around.input settings.source)))) ∧
    ((invoke arguments around).code? ≠ some 0 → (invoke arguments around).output = []) := by
  refine ⟨fun settings hRun hPlain => ⟨?_, ?_⟩, fun hCode => ?_⟩
  · exact code?_of_not_positive hPlain hRun
  · exact code?_of_positive hPlain hRun
  · rcases misused_or_meets_or_success arguments around with
      ⟨cause, hCause⟩ | ⟨trouble, hMeets⟩ | hSuccess
    · exact output_of_misused hCause
    · exact output_of_meets hMeets
    · have hZero : (invoke arguments around).code? = some 0 := by
        rw [Ended.code?, hSuccess]
        rfl
      exact absurd hZero hCode

/-- A file that would report before a byte that encodes nothing, and an input that the user breaks
off, with and without a board. -/
theorem exit_code_tells_cut_source :
    let bytes := Utf8.encode "PLACE 1,2,EAST\nREPORT\n".toList ++ ⟨#[0xff]⟩
    let around : Surroundings :=
      { openFile := Folder.open? ⟨[(["in.txt".toList], bytes)], []⟩
        input := .interrupted
        styled := false
        columns := 80
        stamp := [] }
    (invoke ["-v".toList, "--trace".toList, "in.txt".toList] around).code? = some 1 ∧
      (invoke ["-v".toList, "--trace".toList, "in.txt".toList] around).output = [] ∧
      (invoke ["-".toList] around).code? = some 130 ∧
      (invoke ["--height".toList, "0".toList, "-".toList] around).code? = some 1 := by
  intro bytes around
  have hFive : Literal.IsPositive (.whole 5) := ⟨5, rfl, by decide⟩
  have hZero : ¬ Literal.IsPositive (.whole 0) := by
    rintro ⟨n, hn, hPos⟩
    cases hn
    exact absurd hPos (by decide)
  have hHeld : Source.IsFile around.openFile "in.txt".toList bytes :=
    ⟨by decide, by decide, rfl⟩
  have hDecode : Utf8.decodeMarked? bytes = none := by decide
  have hCut : Source.read around.openFile around.input "in.txt".toList =
      .error (.source (.encoding "in.txt".toList)) := by
    rw [Source.read_file hHeld, hDecode]
    rfl
  have hBroken : Source.read around.openFile around.input "-".toList = .error .interrupted := rfl
  obtain ⟨hFile, hSilent⟩ :=
    exit_code_tells_failure ["-v".toList, "--trace".toList, "in.txt".toList] around
  have hOne := (hFile ⟨"in.txt".toList, .whole 5, .whole 5, true, true⟩ rfl rfl).2 hFive hFive
  rw [hCut, Source.codeOfRead] at hOne
  have hInterrupted := ((exit_code_tells_failure ["-".toList] around).1
    ⟨"-".toList, .whole 5, .whole 5, false, false⟩ rfl rfl).2 hFive hFive
  rw [hBroken, Source.codeOfRead] at hInterrupted
  have hSides := ((exit_code_tells_failure ["--height".toList, "0".toList, "-".toList] around).1
    ⟨"-".toList, .whole 5, .whole 0, false, false⟩ rfl rfl).1 fun h => hZero h.2
  have hEmpty := hSilent (by rw [hOne]; decide)
  exact ⟨hOne, hEmpty, hInterrupted, hSides⟩

end Invocation

end Tabletop
