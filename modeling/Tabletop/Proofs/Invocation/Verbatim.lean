import Tabletop.Proofs.Console.Printed
import Tabletop.Proofs.Invocation.Boundary

/-!
# Trouble told as it is

A stream that does not understand markup gets what is told of a trouble with the tags of the labels.
A console that does shows it without these tags, but it reads the text for tags as well, so that the
text comes out as it is exactly if it is unmarked (`Invocation.told_verbatim_iff_unmarked`). Of the
name of a missing file a tag gets lost (`Invocation.tag_in_name_not_told`).
-/

namespace Tabletop

/-! ## Messages on a console -/

namespace Trouble.Frame

open Markup

variable {frame : Frame} {text : Text}

/-- Of a text in its frame, the frame is shown, and of the text what is shown of it alone. -/
theorem IsSound.shownIn_marked (h : frame.IsSound) (text : Text) :
    shownIn [] (frame.marked text) = (shownIn [] text).map (frame.bare ++ ·) := by
  have hTag : IsTag ('/' :: frame.style) := by
    refine ⟨⟨'/', rfl, by decide⟩, ?_⟩
    simpa using h.style.tag.closed
  have hOpen : '[' ∉ '/' :: frame.style := by simpa using h.style.unopened
  have hWhole : frame.marked text = frame.lead ++ '[' :: (frame.style ++ ']' ::
      (frame.label ++ '[' :: ('/' :: frame.style ++ ']' :: (frame.gap ++ text)))) := by
    simp [marked, emphasized]
  rw [hWhole, shownIn_tag h.lead h.style.tag h.style.unopened h.style.opens,
    shownIn_tag h.label hTag hOpen h.style.closes, shownIn_plain_append h.gap h.colon_notMem,
    h.shown_lead, h.shown_label, Option.map_map, Option.map_map]
  simp [bare, Function.comp_def]

/-- What is shown of a text is printed in its frame. -/
theorem IsSound.print_marked (h : frame.IsSound) {parameters : Parameters}
    (hTaken : parameters.refusal? (frame.marked text) = none) {shown : Text}
    (hShown : shownIn [] text = some shown) (hFree : Text.ControlFree shown) :
    Console.print parameters true (frame.marked text) = .ok (frame.bare ++ shown ++ ['\n']) := by
  apply Console.print_of_shownIn hTaken
  · rw [h.shownIn_marked, hShown, Option.map_some]
  · rw [List.filter_append, h.kept, hFree.filter_isDropped]
  · rw [List.mem_append, not_or]
    exact ⟨h.tab_notMem, hFree.notMem (by decide)⟩

end Trouble.Frame

namespace Invocation

open Markup

/-- Messages that can be printed are printed one after the other. -/
theorem printAll_map {α : Type} {parameters : Parameters} {styled : Bool} {message shown : α → Text}
    {list : List α}
    (h : ∀ a ∈ list, Console.print parameters styled (message a) = .ok (shown a ++ ['\n'])) :
    printAll parameters styled (list.map message) = (Text.unlines (list.map shown), none) := by
  induction list with
  | nil => rfl
  | cons a list ih =>
    rw [List.forall_mem_cons] at h
    rw [List.map_cons, printAll, h.1, ih h.2, List.map_cons, Text.unlines_cons]
    simp

theorem errors_endWith (around : Surroundings) (output errors : Text) (trouble : Trouble) :
    (endWith around output errors trouble).errors =
      errors ++ (printAll around.parameters around.styled trouble.messages).1 := by
  unfold endWith
  split
  · rename_i shown hNone
    rw [hNone]
  · rename_i shown cause hFault
    rw [hFault]

/-- The trouble that an invocation meets does not depend on its console. -/
theorem Meets.of_styled {arguments : List Text} {around : Surroundings} {trouble : Trouble}
    (h : Meets arguments around trouble) (styled : Bool) :
    Meets arguments { around with styled } trouble := by
  cases h with
  | board hRun hSides => exact .board hRun hSides
  | source hRun hBoard hLines => exact .source hRun hBoard hLines

theorem errors_of_meets {arguments : List Text} {around : Surroundings} {trouble : Trouble}
    (h : Meets arguments around trouble) :
    (invoke arguments around).errors =
      (printAll around.parameters around.styled trouble.messages).1 := by
  rw [invoke_of_meets h, errors_endWith, List.nil_append]

/-- On a console that understands markup, a trouble is told as it is exactly if its text is shown as
it is. -/
theorem printAll_messages_eq_bare_iff (parameters : Parameters) {trouble : Trouble}
    (hFree : Text.ControlFree trouble.text) (hCodes : Uncoded trouble.text) :
    (printAll parameters true trouble.messages).1 = trouble.bare ↔
      shownIn [] trouble.text = some trouble.text := by
  have hHint : ∀ told ∈ (trouble.hint?.map (Trouble.Frame.hint, ·)).toList,
      Console.print parameters true (told.1.marked told.2) =
        .ok (told.1.bare ++ told.2 ++ ['\n']) := by
    intro told hTold
    obtain ⟨hint, hSome, rfl⟩ := Option.map_eq_some_iff.mp (Option.mem_toList.mp hTold)
    obtain ⟨hPlain, hColon, hHintFree⟩ := Trouble.hint?_eq_some hSome
    have hTaken : parameters.refusal? (Trouble.Frame.hint.marked hint) = none :=
      Trouble.Frame.isSound_hint.refusal?_marked (tags_of_plain hPlain) parameters
    have hShown : shownIn [] hint = some hint := shownIn_of_plain hPlain hColon []
    exact Trouble.Frame.isSound_hint.print_marked hTaken hShown hHintFree
  rw [Trouble.messages_eq, Trouble.bare, Trouble.told, List.map_cons, List.map_cons, printAll,
    Text.unlines_cons]
  dsimp only
  cases hTaken : parameters.refusal? (trouble.frame.marked trouble.text) with
  | some cause =>
    -- A text that is shown as it is has no tags, and so none with parameters.
    have hNotShown : shownIn [] trouble.text ≠ some trouble.text := by
      intro hShown
      have hTags := (tagless_of_shownIn hCodes hShown).tags_eq_nil
      rw [trouble.isSound_frame.refusal?_marked hTags] at hTaken
      cases hTaken
    rw [Console.print, if_pos rfl, hTaken]
    simp [hNotShown]
  | none =>
    cases hShown : shownIn [] trouble.text with
    | none =>
      have hNone : shownIn [] (trouble.frame.marked trouble.text) = none := by
        rw [trouble.isSound_frame.shownIn_marked, hShown, Option.map_none]
      obtain ⟨cause, hCause⟩ := Console.print_of_shownIn_none parameters hNone
      rw [hCause]
      simp
    | some shown =>
      have hSub : shown.Sublist trouble.text := sublist_of_shownIn hCodes hShown
      have hPrint :=
        trouble.isSound_frame.print_marked hTaken hShown (hFree.of_subset hSub.subset)
      rw [hPrint, printAll_map hHint]
      simp

/-- A stream that does not understand markup gets what is told of a trouble with the tags of the
labels. A console that does shows it without these tags, and with the text of the trouble as it is
exactly if no bracket in the text begins a tag or has a backslash in front. -/
theorem told_verbatim_iff_unmarked {arguments : List Text} {around : Surroundings}
    {trouble : Trouble} (hMeets : Meets arguments around trouble)
    (hFree : Text.ControlFree trouble.text) :
    (invoke arguments { around with styled := false }).errors = trouble.marked ∧
      (Uncoded trouble.text →
        ((invoke arguments { around with styled := true }).errors = trouble.bare ↔
          Unmarked trouble.text)) := by
  constructor
  · have hPrint : ∀ told ∈ trouble.told,
        Console.print around.parameters false (told.1.marked told.2) =
          .ok (told.1.marked told.2 ++ ['\n']) :=
      fun told _ => rfl
    rw [errors_of_meets (hMeets.of_styled false), Trouble.messages_eq, Trouble.marked,
      printAll_map hPrint]
  · intro hCodes
    rw [errors_of_meets (hMeets.of_styled true), printAll_messages_eq_bare_iff _ hFree hCodes,
      shownIn_eq_self_iff hCodes]

/-- The name of a missing file whose brackets begin no tag is told as it is. -/
theorem told_verbatim_at_numbered_name :
    Meets ["a [1].txt".toList] (Surroundings.reading [])
        (.ofRead (.source (.missing "a [1].txt".toList))) ∧
      (invoke ["a [1].txt".toList] { Surroundings.reading [] with styled := true }).errors =
        ("Error: Command file 'a [1].txt' not found.\n" ++
          "Hint: Pass a path to an existing file, or '-' to read stdin.\n").toList := by
  have hMeets : Meets ["a [1].txt".toList] (Surroundings.reading [])
      (.ofRead (.source (.missing "a [1].txt".toList))) := by
    have hRun : Options.read ["a [1].txt".toList] =
        .ok (.run ⟨"a [1].txt".toList, .whole 5, .whole 5, false, false⟩) := rfl
    have hBoard : Board.ofLiterals? (.whole 5) (.whole 5) = .ok (Board.mk 5 5) := rfl
    exact .source hRun hBoard rfl
  have hCodes : Uncoded (Trouble.ofRead (.source (.missing "a [1].txt".toList))).text :=
    uncoded_of_not_mem (by decide)
  have hUnmarked : Unmarked (Trouble.ofRead (.source (.missing "a [1].txt".toList))).text := by
    have hShown : shownIn [] (Trouble.ofRead (.source (.missing "a [1].txt".toList))).text =
        some (Trouble.ofRead (.source (.missing "a [1].txt".toList))).text := by decide +kernel
    exact (shownIn_eq_self_iff hCodes).mp hShown
  refine ⟨hMeets, ?_⟩
  rw [((told_verbatim_iff_unmarked hMeets (by decide)).2 hCodes).mpr hUnmarked]
  decide +kernel

/-- Of the name of a missing file, a tag gets lost on a console that understands markup. -/
theorem tag_in_name_not_told :
    Meets ["[b]x".toList] (Surroundings.reading [])
        (.ofRead (.source (.missing "[b]x".toList))) ∧
      (invoke ["[b]x".toList] { Surroundings.reading [] with styled := true }).errors =
        ("Error: Command file 'x' not found.\n" ++
          "Hint: Pass a path to an existing file, or '-' to read stdin.\n").toList ∧
      (Trouble.ofRead (.source (.missing "[b]x".toList))).bare =
        ("Error: Command file '[b]x' not found.\n" ++
          "Hint: Pass a path to an existing file, or '-' to read stdin.\n").toList := by
  have hRun : Options.read ["[b]x".toList] =
      .ok (.run ⟨"[b]x".toList, .whole 5, .whole 5, false, false⟩) := rfl
  have hBoard : Board.ofLiterals? (.whole 5) (.whole 5) = .ok (Board.mk 5 5) := rfl
  have hMeets : Meets ["[b]x".toList] (Surroundings.reading [])
      (.ofRead (.source (.missing "[b]x".toList))) := .source hRun hBoard rfl
  refine ⟨hMeets, ?_, by decide +kernel⟩
  rw [errors_of_meets (hMeets.of_styled true)]
  decide +kernel

end Invocation

end Tabletop
