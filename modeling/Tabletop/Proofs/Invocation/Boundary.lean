import Tabletop.Proofs.Invocation.Reports
import Tabletop.Proofs.Invocation.Told

/-!
# Which invocations end with an exit code

An invocation that meets trouble tells it on the standard error and ends with an exit code, unless
the telling itself fails. Of what is told, the names in brackets and the hints are always well
formed; the text of the trouble, in which names of files and messages of the system stand as they
are, may hold tags that cannot be read, or tags with parameters that the console refuses. So an
invocation ends with an exit code exactly if it meets no trouble with such a text or the console
does not understand markup (`ends_with_code_iff`). The name of a missing file is enough to end
without one (`no_code_for_bracketed_name`).
-/

namespace Tabletop

namespace Invocation

open Markup

/-! ## Telling it -/

theorem print_eq_error_iff {parameters : Parameters} {styled : Bool} {message : Text} :
    (∃ cause, Console.print parameters styled message = .error cause) ↔
      styled = true ∧ (HasStuckTag message ∨ parameters.Refuses message) := by
  unfold Console.print Parameters.Refuses
  cases styled with
  | true =>
    rw [← render_eq_error_iff]
    cases parameters.refusal? message with
    | some cause => simp
    | none => cases render message <;> simp [Except.map]
  | false => simp

theorem printAll_fault_iff {parameters : Parameters} {styled : Bool} {messages : List Text} :
    (∃ cause, (printAll parameters styled messages).2 = some cause) ↔
      styled = true ∧
        ∃ message ∈ messages, HasStuckTag message ∨ parameters.Refuses message := by
  induction messages with
  | nil => simp [printAll]
  | cons message messages ih =>
    have hFirst : (∃ cause, Console.print parameters styled message = .error cause) ↔
        styled = true ∧ (HasStuckTag message ∨ parameters.Refuses message) := print_eq_error_iff
    unfold printAll
    cases hPrint : Console.print parameters styled message with
    | error cause =>
      obtain ⟨hStyled, hBad⟩ := hFirst.mp ⟨cause, hPrint⟩
      simp [hStyled, hBad]
    | ok shown =>
      have hNot : ¬ (styled = true ∧ (HasStuckTag message ∨ parameters.Refuses message)) := by
        rw [← hFirst, hPrint]
        rintro ⟨cause, h⟩
        cases h
      dsimp only
      rw [ih]
      constructor
      · rintro ⟨hStyled, other, hOther, hBad⟩
        exact ⟨hStyled, other, List.mem_cons_of_mem message hOther, hBad⟩
      · rintro ⟨hStyled, other, hOther, hBad⟩
        rcases List.mem_cons.mp hOther with rfl | hOther
        · exact absurd ⟨hStyled, hBad⟩ hNot
        · exact ⟨hStyled, other, hOther, hBad⟩

/-- The end of a run that met trouble has an exit code unless the trouble cannot be told. -/
theorem endWith_exit_iff (around : Surroundings) (output errors : Text) (trouble : Trouble) :
    (∃ code, (endWith around output errors trouble).ending = .exit code) ↔
      ¬ (around.styled = true ∧ (HasStuckTag trouble.text ∨
        ∃ message ∈ trouble.messages, around.parameters.Refuses message)) := by
  have hEither : (∃ message ∈ trouble.messages,
      HasStuckTag message ∨ around.parameters.Refuses message) ↔
      HasStuckTag trouble.text ∨
        ∃ message ∈ trouble.messages, around.parameters.Refuses message := by
    rw [← Trouble.hasStuckTag_messages, ← exists_or]
    exact exists_congr fun message => and_or_left
  rw [← hEither, ← printAll_fault_iff]
  unfold endWith
  split
  · rename_i shown hNone
    simp [hNone]
  · rename_i shown cause hFault
    simp [hFault]

theorem output_endWith (around : Surroundings) (output errors : Text) (trouble : Trouble) :
    (endWith around output errors trouble).output = output := by
  unfold endWith
  split <;> rfl

/-- A trouble that is told ends with its own exit code. -/
theorem exitCode_of_endWith {around : Surroundings} {output errors : Text} {trouble : Trouble}
    {code : ExitCode} (h : (endWith around output errors trouble).ending = .exit code) :
    code = trouble.exitCode := by
  unfold endWith at h
  split at h
  · exact (Ending.exit.inj h).symm
  · cases h

/-! ## Meeting trouble -/

/-- The trouble that an invocation meets, if it meets any. -/
inductive Meets (arguments : List Text) (around : Surroundings) : Trouble → Prop
  | board {settings : Settings} {sides : Board.BadSides}
      (hRun : Options.read arguments = .ok (.run settings))
      (hSides : Board.ofLiterals? settings.width settings.height = .error sides) :
      Meets arguments around (.board sides)
  | source {settings : Settings} {board : Board} {failure : ReadFailure}
      (hRun : Options.read arguments = .ok (.run settings))
      (hBoard : Board.ofLiterals? settings.width settings.height = .ok board)
      (hLines : Source.read around.openFile around.input settings.source = .error failure) :
      Meets arguments around (.ofRead failure)

theorem invoke_of_meets {arguments : List Text} {around : Surroundings} {trouble : Trouble}
    (h : Meets arguments around trouble) :
    invoke arguments around = endWith around [] [] trouble := by
  cases h with
  | board hRun hSides => simp only [invoke, hRun, run, hSides]
  | source hRun hBoard hLines => simp only [invoke, hRun, run, hBoard, hLines]

/-- An invocation is misused, or it meets trouble, or it ends with success. -/
theorem misused_or_meets_or_success (arguments : List Text) (around : Surroundings) :
    (∃ cause, Options.read arguments = .error cause) ∨
      (∃ trouble, Meets arguments around trouble) ∨
      (invoke arguments around).ending = .exit .success := by
  cases hRead : Options.read arguments with
  | error cause => exact Or.inl ⟨cause, rfl⟩
  | ok directive =>
    cases directive with
    | help => exact Or.inr (Or.inr (by simp only [invoke, hRead]))
    | version => exact Or.inr (Or.inr (by simp only [invoke, hRead]))
    | run settings =>
      cases hBoard : Board.ofLiterals? settings.width settings.height with
      | error sides => exact Or.inr (Or.inl ⟨_, .board hRead hBoard⟩)
      | ok board =>
        cases hLines : Source.read around.openFile around.input settings.source with
        | error failure => exact Or.inr (Or.inl ⟨_, .source hRead hBoard hLines⟩)
        | ok lines => exact Or.inr (Or.inr (ending_of_read hRead hBoard hLines))

/-- An invocation meets trouble or ends with an exit code. -/
theorem meets_or_exit (arguments : List Text) (around : Surroundings) :
    (∃ trouble, Meets arguments around trouble) ∨
      ∃ code, (invoke arguments around).ending = .exit code := by
  rcases misused_or_meets_or_success arguments around with ⟨cause, hCause⟩ | hMeets | hSuccess
  · exact Or.inr ⟨.unexpected, by simp only [invoke, hCause]⟩
  · exact Or.inl hMeets
  · exact Or.inr ⟨.success, hSuccess⟩

/-- An invocation ends with one of the four exit codes exactly if it does not meet trouble of which,
on a console that understands markup, the text has a tag that cannot be read, or a message is
refused for the parameters of its tags. -/
theorem ends_with_code_iff (arguments : List Text) (around : Surroundings) :
    (∃ code, (invoke arguments around).ending = .exit code ∧ code.toNat ∈ [0, 1, 2, 130]) ↔
      ¬ (around.styled = true ∧ ∃ trouble, Meets arguments around trouble ∧
        (HasStuckTag trouble.text ∨
          ∃ message ∈ trouble.messages, around.parameters.Refuses message)) := by
  have hCode : ∀ code : ExitCode, code.toNat ∈ [0, 1, 2, 130] := by
    intro code
    cases code <;> decide
  have hDrop : (∃ code, (invoke arguments around).ending = .exit code ∧
      code.toNat ∈ [0, 1, 2, 130]) ↔ ∃ code, (invoke arguments around).ending = .exit code :=
    exists_congr fun code => and_iff_left (hCode code)
  rw [hDrop]
  constructor
  · rintro hExit ⟨hStyled, trouble, hMeets, hBad⟩
    rw [invoke_of_meets hMeets, endWith_exit_iff] at hExit
    exact hExit ⟨hStyled, hBad⟩
  · intro hTold
    rcases meets_or_exit arguments around with ⟨trouble, hMeets⟩ | hExit
    · rw [invoke_of_meets hMeets, endWith_exit_iff]
      rintro ⟨hStyled, hBad⟩
      exact hTold ⟨hStyled, trouble, hMeets, hBad⟩
    · exact hExit

/-- A missing file whose name closes a style that is not open leaves an invocation without an exit
code. -/
theorem no_code_for_bracketed_name :
    ¬ ∃ code, (invoke ["[/x]".toList] (Surroundings.reading [])).ending = .exit code := by
  have hMeets : Meets ["[/x]".toList] (Surroundings.reading [])
      (.ofRead (.source (.missing "[/x]".toList))) := by
    have hRun : Options.read ["[/x]".toList] =
        .ok (.run ⟨"[/x]".toList, .whole 5, .whole 5, false, false⟩) := rfl
    have hBoard : Board.ofLiterals? (.whole 5) (.whole 5) = .ok (Board.mk 5 5) := rfl
    exact .source hRun hBoard rfl
  have hTags : tags (Trouble.ofRead (.source (.missing "[/x]".toList))).text = ["/x".toList] := by
    decide
  have hStuck : HasStuckTag (Trouble.ofRead (.source (.missing "[/x]".toList))).text := by
    rw [HasStuckTag, hTags]
    exact .here (stuck_nil rfl)
  rw [invoke_of_meets hMeets, endWith_exit_iff, not_not]
  exact ⟨rfl, Or.inl hStuck⟩

end Invocation

end Tabletop
