import Mathlib.Data.List.TakeWhile
import Tabletop.Text.Blank

/-!
# Blanks at the ends of a text

`Text.strip` is recovered from its meaning: the stripped text is the only part of a text that has
nothing but blanks on either side and neither starts nor ends with a blank.

* `exists_blanks_strip`: a text is its stripped part with blanks around it.
* `strip_append_append`: blanks put around a text are stripped again.
* `strip_eq_iff`: the two together, as a description of stripping.
* `stripStart_append_cons`, `stripEnd_append_cons`: a character that is no blank keeps the two
  ends of a text apart.
-/

namespace Tabletop

namespace Text

/-- Nothing but blanks. -/
def AllBlank (t : Text) : Prop := ∀ c ∈ t, isBlank c = true

/-- A text that neither starts nor ends with a blank. -/
def Trimmed (t : Text) : Prop :=
  (∀ c, t.head? = some c → isBlank c = false) ∧ ∀ c, t.getLast? = some c → isBlank c = false

/-- `u` is what is left of `t` without the blanks at its ends. -/
def StripsTo (t u : Text) : Prop :=
  Trimmed u ∧ ∃ left right, AllBlank left ∧ AllBlank right ∧ t = left ++ u ++ right

theorem allBlank_nil : AllBlank [] := fun _ hc => absurd hc List.not_mem_nil

theorem allBlank_reverse {t : Text} (ht : AllBlank t) : AllBlank t.reverse :=
  fun c hc => ht c (List.mem_reverse.mp hc)

/-! ## The start of a text -/

theorem stripStart_append {left : Text} (hLeft : AllBlank left) (t : Text) :
    stripStart (left ++ t) = stripStart t :=
  List.dropWhile_append_of_pos hLeft

theorem exists_blanks_stripStart (t : Text) :
    ∃ left, AllBlank left ∧ t = left ++ stripStart t :=
  ⟨t.takeWhile isBlank, fun _ hc => List.mem_takeWhile_imp hc,
    List.takeWhile_append_dropWhile.symm⟩

theorem head_stripStart {t : Text} {c : Char} (hc : (stripStart t).head? = some c) :
    isBlank c = false := by
  have h := List.head?_dropWhile_not isBlank t
  unfold stripStart at hc
  rw [hc] at h
  exact h

theorem stripStart_eq_self {t : Text} (h : ∀ c, t.head? = some c → isBlank c = false) :
    stripStart t = t := by
  cases t with
  | nil => rfl
  | cons c rest => exact List.dropWhile_cons_of_neg (by simp [h c rfl])

/-- Of a text with a character that is no blank, the start reaches up to that character. -/
theorem stripStart_append_cons {c : Char} (hc : isBlank c = false) (s t : Text) :
    stripStart (s ++ c :: t) = stripStart s ++ c :: t := by
  obtain ⟨left, hLeft, hs⟩ := exists_blanks_stripStart s
  have hStart : stripStart (stripStart s ++ c :: t) = stripStart s ++ c :: t := by
    apply stripStart_eq_self
    intro d hd
    cases hRest : stripStart s with
    | nil =>
      rw [hRest] at hd
      cases hd
      exact hc
    | cons e rest =>
      apply head_stripStart (t := s)
      rw [hRest] at hd ⊢
      exact hd
  calc stripStart (s ++ c :: t) = stripStart (left ++ (stripStart s ++ c :: t)) := by
        rw [← List.append_assoc, ← hs]
    _ = stripStart (stripStart s ++ c :: t) := stripStart_append hLeft _
    _ = stripStart s ++ c :: t := hStart

/-! ## The end of a text -/

theorem stripEnd_append {right : Text} (hRight : AllBlank right) (t : Text) :
    stripEnd (t ++ right) = stripEnd t := by
  unfold stripEnd
  rw [List.reverse_append, List.dropWhile_append_of_pos (allBlank_reverse hRight)]

theorem stripEnd_eq_reverse (t : Text) : stripEnd t = (stripStart t.reverse).reverse := rfl

theorem exists_blanks_stripEnd (t : Text) :
    ∃ right, AllBlank right ∧ t = stripEnd t ++ right := by
  obtain ⟨left, hLeft, ht⟩ := exists_blanks_stripStart t.reverse
  refine ⟨left.reverse, allBlank_reverse hLeft, ?_⟩
  rw [stripEnd_eq_reverse, ← List.reverse_append, ← ht, List.reverse_reverse]

theorem getLast_stripEnd {t : Text} {c : Char} (hc : (stripEnd t).getLast? = some c) :
    isBlank c = false := by
  rw [stripEnd_eq_reverse, List.getLast?_reverse] at hc
  exact head_stripStart hc

theorem stripEnd_eq_self {t : Text} (h : ∀ c, t.getLast? = some c → isBlank c = false) :
    stripEnd t = t := by
  rw [stripEnd_eq_reverse, stripStart_eq_self, List.reverse_reverse]
  intro c hc
  exact h c (by rwa [List.head?_reverse] at hc)

theorem stripEnd_append_cons {c : Char} (hc : isBlank c = false) (s t : Text) :
    stripEnd (s ++ c :: t) = s ++ c :: stripEnd t := by
  have hReverse : (s ++ c :: t).reverse = t.reverse ++ c :: s.reverse := by simp
  rw [stripEnd_eq_reverse, hReverse, stripStart_append_cons hc, stripEnd_eq_reverse]
  simp

/-! ## Both ends -/

theorem strip_append_append {left right : Text} (hLeft : AllBlank left) (hRight : AllBlank right)
    (t : Text) : strip (left ++ t ++ right) = strip t := by
  unfold strip
  rw [List.append_assoc, stripStart_append hLeft]
  cases ht : stripStart t with
  | nil =>
    obtain ⟨blanks, hBlanks, hs⟩ := exists_blanks_stripStart t
    rw [ht, List.append_nil] at hs
    subst hs
    rw [stripStart_append hBlanks]
    have hEmpty : stripStart right = [] := by
      rw [← List.append_nil right, stripStart_append hRight]
      rfl
    rw [hEmpty]
  | cons c rest =>
    obtain ⟨blanks, hBlanks, hs⟩ := exists_blanks_stripStart t
    have hc : isBlank c = false := head_stripStart (t := t) (by rw [ht]; rfl)
    rw [hs, ht, List.append_assoc, stripStart_append hBlanks, List.cons_append,
      stripStart_eq_self (by rintro d hd; cases hd; exact hc), ← List.cons_append,
      stripEnd_append hRight]

theorem exists_blanks_strip (t : Text) :
    ∃ left right, AllBlank left ∧ AllBlank right ∧ t = left ++ strip t ++ right := by
  obtain ⟨left, hLeft, hStart⟩ := exists_blanks_stripStart t
  obtain ⟨right, hRight, hEnd⟩ := exists_blanks_stripEnd (stripStart t)
  refine ⟨left, right, hLeft, hRight, ?_⟩
  unfold strip
  rw [List.append_assoc, ← hEnd, ← hStart]

theorem strip_subset (t : Text) : strip t ⊆ t := by
  obtain ⟨left, right, -, -, hWhole⟩ := exists_blanks_strip t
  intro c hc
  rw [hWhole]
  exact List.mem_append_left right (List.mem_append_right left hc)

theorem trimmed_strip (t : Text) : Trimmed (strip t) := by
  refine ⟨fun c hc => ?_, fun c hc => getLast_stripEnd hc⟩
  -- What is left of the end starts as the text did before.
  obtain ⟨right, hRight, hEnd⟩ := exists_blanks_stripEnd (stripStart t)
  apply head_stripStart (t := t)
  rw [hEnd]
  unfold strip at hc
  cases hRest : stripEnd (stripStart t) with
  | nil => rw [hRest] at hc; cases hc
  | cons d rest => rw [hRest] at hc; cases hc; rfl

theorem trimmed_of_not_blank {t : Text} (h : ∀ c ∈ t, isBlank c = false) : Trimmed t :=
  ⟨fun c hc => h c (List.mem_of_mem_head? hc), fun c hc => h c (List.mem_of_mem_getLast? hc)⟩

theorem strip_of_trimmed {t : Text} (ht : Trimmed t) : strip t = t := by
  unfold strip
  rw [stripStart_eq_self ht.1, stripEnd_eq_self ht.2]

/-- The stripped text is the trimmed part of the text that only blanks surround. -/
theorem strip_eq_iff {t u : Text} : strip t = u ↔ StripsTo t u := by
  constructor
  · rintro rfl
    exact ⟨trimmed_strip t, exists_blanks_strip t⟩
  · rintro ⟨hu, left, right, hLeft, hRight, rfl⟩
    rw [strip_append_append hLeft hRight, strip_of_trimmed hu]

theorem exists_stripsTo_iff {t : Text} {P : Text → Prop} :
    (∃ u, StripsTo t u ∧ P u) ↔ P (strip t) := by
  constructor
  · rintro ⟨u, hu, hP⟩
    rwa [strip_eq_iff.mpr hu]
  · intro hP
    exact ⟨strip t, strip_eq_iff.mp rfl, hP⟩

end Text

end Tabletop
