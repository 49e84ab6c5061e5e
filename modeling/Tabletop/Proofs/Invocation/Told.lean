import Tabletop.Invocation
import Tabletop.Proofs.Console.Printed

/-!
# What is told of a trouble

What is told of a trouble are texts in frames (`Trouble.Frame`), which hold a label in a style: the
text of the trouble, in which names of files and messages of the system stand as they are, and a
hint, if there is one. The tags of a frame can be read and have no parameters, and a hint has no
tags. So whether a trouble can be told depends on the tags in its text alone
(`Trouble.hasStuckTag_messages`, `Trouble.exists_set_of_refuses`).
-/

namespace Tabletop

/-- The text of a trouble, as it stands in what is told. -/
def Trouble.text : Trouble → Text
  | board sides => sides.message
  | source failure => failure.message
  | crash cause => cause.kind ++ ": ".toList ++ cause.message
  | interrupted => []

namespace Markup

/-- A console refuses the parameters of a tag in the text. -/
def Parameters.Refuses (parameters : Parameters) (t : Text) : Prop :=
  ∃ cause, parameters.refusal? t = some cause

/-! ## The styles of what is told -/

theorem isStyle_boldRed : IsStyle "bold red".toList where
  tag := ⟨⟨'b', rfl, by decide⟩, by decide⟩
  unopened := by decide
  opens := .opens (by simp [tagName]) (by decide +kernel)
  closes := .closes rfl (by decide) (by decide +kernel) List.mem_cons_self

theorem isStyle_yellow : IsStyle "yellow".toList where
  tag := ⟨⟨'y', rfl, by decide⟩, by decide⟩
  unopened := by decide
  opens := .opens (by simp [tagName]) (by decide +kernel)
  closes := .closes rfl (by decide) (by decide +kernel) List.mem_cons_self

end Markup

namespace Trouble

/-! ## Texts in frames -/

/-- What stands around the text of a message: a label, which is shown in a style. -/
structure Frame where
  /-- What stands in front of the label. -/
  lead : Text
  style : Text
  label : Text
  /-- What stands between the label and the text. -/
  gap : Text

namespace Frame

/-- The text in its frame, with the tags of the label. -/
def marked (frame : Frame) (text : Text) : Text :=
  frame.lead ++ (Markup.emphasized frame.style frame.label ++ (frame.gap ++ text))

/-- The frame without the tags of the label. -/
def bare (frame : Frame) : Text := frame.lead ++ (frame.label ++ frame.gap)

def error : Frame := ⟨[], "bold red".toList, "Error:".toList, " ".toList⟩

def hint : Frame := ⟨[], "yellow".toList, "Hint:".toList, " ".toList⟩

def unexpected : Frame :=
  ⟨[], "bold red".toList, "Unexpected error.".toList, " Please report this issue.\n  ".toList⟩

def aborted : Frame := ⟨"\n".toList, "yellow".toList, "Aborted by user.".toList, []⟩

/-- The frame itself is shown as it is, but for the tags of its label. -/
structure IsSound (frame : Frame) : Prop where
  style : Markup.IsStyle frame.style
  unset : '=' ∉ frame.style
  lead : Markup.IsPlain frame.lead
  shown_lead : Markup.shown frame.lead = frame.lead
  label : Markup.IsPlain frame.label
  shown_label : Markup.shown frame.label = frame.label
  gap : Markup.IsPlain frame.gap
  colon_notMem : ':' ∉ frame.gap
  kept : frame.bare.filter (!Markup.isDropped ·) = frame.bare
  tab_notMem : '\t' ∉ frame.bare

theorem isSound_error : error.IsSound :=
  ⟨Markup.isStyle_boldRed, by decide, by decide, rfl, by decide, by decide, by decide, by decide,
    by decide, by decide⟩

theorem isSound_hint : hint.IsSound :=
  ⟨Markup.isStyle_yellow, by decide, by decide, rfl, by decide, by decide, by decide, by decide,
    by decide, by decide⟩

theorem isSound_unexpected : unexpected.IsSound :=
  ⟨Markup.isStyle_boldRed, by decide, by decide, rfl, by decide, by decide, by decide, by decide,
    by decide, by decide⟩

theorem isSound_aborted : aborted.IsSound :=
  ⟨Markup.isStyle_yellow, by decide, by decide, by decide, by decide, by decide, by decide,
    by decide, by decide, by decide⟩

end Frame

/-- The frame of the text of a trouble. -/
def frame : Trouble → Frame
  | board _ => .error
  | source _ => .error
  | crash _ => .unexpected
  | interrupted => .aborted

/-- The hint that is told behind the text of a trouble. -/
def hint? : Trouble → Option Text
  | board _ => some Board.BadSides.hint
  | source failure => failure.hint?
  | crash _ => none
  | interrupted => none

/-- What is told of a trouble, each text with its frame. -/
def told (trouble : Trouble) : List (Frame × Text) :=
  (trouble.frame, trouble.text) :: (trouble.hint?.map (Frame.hint, ·)).toList

/-- All that is told, with the tags of the labels. -/
def marked (trouble : Trouble) : Text :=
  Text.unlines (trouble.told.map fun told => told.1.marked told.2)

/-- All that is told, without the tags of the labels. -/
def bare (trouble : Trouble) : Text :=
  Text.unlines (trouble.told.map fun told => told.1.bare ++ told.2)

theorem messages_eq (trouble : Trouble) :
    trouble.messages = trouble.told.map fun told => told.1.marked told.2 := by
  cases trouble with
  | board sides => rfl
  | source failure =>
    rw [messages, foreseen, told, hint?]
    cases failure.hint? <;> rfl
  | crash cause =>
    simp [messages, told, frame, hint?, text, Frame.marked, Frame.unexpected, Markup.emphasized]
  | interrupted => rfl

theorem isSound_frame (trouble : Trouble) : trouble.frame.IsSound := by
  cases trouble with
  | board _ => exact Frame.isSound_error
  | source _ => exact Frame.isSound_error
  | crash _ => exact Frame.isSound_unexpected
  | interrupted => exact Frame.isSound_aborted

/-- A hint can be shown as it is. -/
theorem hint?_eq_some {trouble : Trouble} {hint : Text} (h : trouble.hint? = some hint) :
    Markup.IsPlain hint ∧ ':' ∉ hint ∧ Text.ControlFree hint := by
  cases trouble with
  | board sides =>
    cases h
    decide
  | source failure => cases failure <;> cases h <;> decide
  | crash cause => cases h
  | interrupted => cases h

/-! ## The tags of what is told -/

namespace Frame

open Markup

variable {frame : Frame}

theorem IsSound.tags_marked (h : frame.IsSound) (text : Text) :
    tags (frame.marked text) = frame.style :: ('/' :: frame.style) :: tags text := by
  rw [marked, tags_plain_append h.lead, tags_emphasized_append h.style h.label,
    tags_plain_append h.gap]

theorem IsSound.hasStuckTag_marked (h : frame.IsSound) (text : Text) :
    HasStuckTag (frame.marked text) ↔ HasStuckTag text := by
  rw [HasStuckTag, h.tags_marked, stuckIn_cons_iff h.style.opens, stuckIn_cons_iff h.style.closes,
    HasStuckTag]

/-- Parameters can only be refused in a tag of the text. -/
theorem IsSound.exists_set_of_refuses (h : frame.IsSound) {text : Text} {parameters : Parameters}
    (hRefuses : parameters.Refuses (frame.marked text)) : ∃ body ∈ tags text, '=' ∈ body := by
  by_contra hNone
  simp only [not_exists, not_and] at hNone
  obtain ⟨cause, hCause⟩ := hRefuses
  rw [parameters.refusal?_eq_none] at hCause
  · cases hCause
  · rw [h.tags_marked, List.forall_mem_cons, List.forall_mem_cons]
    exact ⟨h.unset, by simpa using h.unset, hNone⟩

theorem IsSound.refusal?_marked (h : frame.IsSound) {text : Text} (hTags : tags text = [])
    (parameters : Parameters) : parameters.refusal? (frame.marked text) = none := by
  rw [Option.eq_none_iff_forall_ne_some]
  intro cause hCause
  obtain ⟨body, hBody, -⟩ := h.exists_set_of_refuses ⟨cause, hCause⟩
  rw [hTags] at hBody
  cases hBody

end Frame

theorem mem_messages_iff {trouble : Trouble} {message : Text} :
    message ∈ trouble.messages ↔
      message = trouble.frame.marked trouble.text ∨
        ∃ hint, trouble.hint? = some hint ∧ message = Frame.hint.marked hint := by
  rw [messages_eq, told, List.map_cons, List.mem_cons]
  cases trouble.hint? <;> simp

/-- A trouble cannot be told if its text has a tag that cannot be read, and of the tags in what is
told no others matter. -/
theorem hasStuckTag_messages (trouble : Trouble) :
    (∃ message ∈ trouble.messages, Markup.HasStuckTag message) ↔
      Markup.HasStuckTag trouble.text := by
  constructor
  · rintro ⟨message, hMessage, hStuck⟩
    rcases mem_messages_iff.mp hMessage with rfl | ⟨hint, hHint, rfl⟩
    · exact (trouble.isSound_frame.hasStuckTag_marked trouble.text).mp hStuck
    · have hPlain : ¬ Markup.HasStuckTag hint :=
        Markup.not_hasStuckTag_of_plain (hint?_eq_some hHint).1
      exact absurd ((Frame.isSound_hint.hasStuckTag_marked hint).mp hStuck) hPlain
  · intro hStuck
    exact ⟨_, mem_messages_iff.mpr (Or.inl rfl),
      (trouble.isSound_frame.hasStuckTag_marked trouble.text).mpr hStuck⟩

theorem exists_set_of_refuses {trouble : Trouble} {parameters : Markup.Parameters} {message : Text}
    (hMessage : message ∈ trouble.messages) (hRefuses : parameters.Refuses message) :
    ∃ body ∈ Markup.tags trouble.text, '=' ∈ body := by
  rcases mem_messages_iff.mp hMessage with rfl | ⟨hint, hHint, rfl⟩
  · exact trouble.isSound_frame.exists_set_of_refuses hRefuses
  · obtain ⟨body, hBody, -⟩ := Frame.isSound_hint.exists_set_of_refuses hRefuses
    rw [Markup.tags_of_plain (hint?_eq_some hHint).1] at hBody
    cases hBody

end Trouble

end Tabletop
