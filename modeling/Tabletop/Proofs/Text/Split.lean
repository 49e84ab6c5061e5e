import Tabletop.Text.Basic

/-!
# Texts cut at a character

What `List.splitOn` gives are the pieces that hold the character no more, and that make up the
text again when it is put between them. Lines that are put together to a text are its pieces at the
line feeds, if they hold none (`splitOn_unlines`).
-/

namespace Tabletop

namespace Text

theorem not_mem_of_mem_splitOn {separator : Char} {t piece : Text}
    (h : piece ∈ t.splitOn separator) : separator ∉ piece := by
  induction t generalizing piece with
  | nil =>
    rw [List.splitOn_nil, List.mem_singleton] at h
    subst h
    exact List.not_mem_nil
  | cons c t ih =>
    rw [List.splitOn_cons_eq_if_modifyHead] at h
    split at h
    · rcases List.mem_cons.mp h with rfl | h
      · exact List.not_mem_nil
      · exact ih h
    · rename_i hc
      cases hSplit : t.splitOn separator with
      | nil => exact absurd hSplit (List.splitOn_ne_nil separator t)
      | cons first others =>
        rw [hSplit, List.modifyHead_cons] at h
        rcases List.mem_cons.mp h with rfl | h
        · have hFirst : separator ∉ first := ih (by rw [hSplit]; exact List.mem_cons_self)
          simp only [List.mem_cons, not_or]
          exact ⟨fun he => hc (by simp [he]), hFirst⟩
        · exact ih (by rw [hSplit]; exact List.mem_cons_of_mem first h)

/-- The text of its pieces, put together again. -/
theorem eq_of_splitOn_cons {separator : Char} {t first : Text} {others : List Text}
    (h : t.splitOn separator = first :: others) :
    t = first ++ others.flatMap (separator :: ·) := by
  have hJoin : [separator].intercalate (t.splitOn separator) = t :=
    List.intercalate_splitOn separator
  rw [h] at hJoin
  rw [← hJoin]
  clear h hJoin
  induction others generalizing first with
  | nil => simp
  | cons next others ih => simp [List.intercalate_cons_cons, ih]

/-- A text is its pieces, in which the separator does not stand. -/
theorem exists_pieces (separator : Char) (t : Text) : ∃ first others,
    t.splitOn separator = first :: others ∧ separator ∉ first ∧
      (∀ other ∈ others, separator ∉ other) ∧ t = first ++ others.flatMap (separator :: ·) := by
  cases hSplit : t.splitOn separator with
  | nil => exact absurd hSplit (List.splitOn_ne_nil separator t)
  | cons first others =>
    refine ⟨first, others, rfl, ?_, fun other hOther => ?_, eq_of_splitOn_cons hSplit⟩
    · exact not_mem_of_mem_splitOn (hSplit ▸ List.mem_cons_self)
    · exact not_mem_of_mem_splitOn (hSplit ▸ List.mem_cons_of_mem first hOther)

/-- Text before the first separator belongs to the first piece. -/
theorem splitOn_append_of_not_mem {separator : Char} {u t first : Text} {others : List Text}
    (hu : separator ∉ u) (h : t.splitOn separator = first :: others) :
    (u ++ t).splitOn separator = (u ++ first) :: others := by
  induction u with
  | nil => exact h
  | cons c u ih =>
    simp only [List.mem_cons, not_or] at hu
    have hc : (c == separator) = false := by simpa using Ne.symm hu.1
    rw [List.cons_append, List.splitOn_cons_eq_if_modifyHead, ih hu.2, hc]
    rfl

theorem splitOn_eq_three_iff {separator : Char} {t a b c : Text} :
    t.splitOn separator = [a, b, c] ↔
      t = a ++ separator :: (b ++ separator :: c) ∧
        separator ∉ a ∧ separator ∉ b ∧ separator ∉ c := by
  constructor
  · intro h
    refine ⟨by simpa using eq_of_splitOn_cons h, ?_, ?_, ?_⟩
    all_goals
      apply not_mem_of_mem_splitOn (t := t)
      simp [h]
  · rintro ⟨rfl, ha, hb, hc⟩
    rw [List.splitOn_append_cons_self_of_not_mem ha, List.splitOn_append_cons_self_of_not_mem hb,
      List.splitOn_eq_singleton hc]

/-- Between the separators stand the pieces. -/
theorem mem_intercalate {separator c : Char} (hc : c ≠ separator) {pieces : List Text} :
    c ∈ [separator].intercalate pieces ↔ ∃ piece ∈ pieces, c ∈ piece := by
  induction pieces with
  | nil => simp
  | cons piece pieces ih =>
    cases pieces with
    | nil => simp
    | cons next others =>
      rw [List.intercalate_cons_cons, List.mem_append, List.mem_append, List.mem_singleton, ih,
        or_assoc, or_iff_right hc]
      simp only [List.mem_cons, exists_eq_or_imp]

/-- The pieces hold all of the text but its separators. -/
theorem exists_mem_splitOn {separator c : Char} (hc : c ≠ separator) {t : Text} :
    (∃ piece ∈ t.splitOn separator, c ∈ piece) ↔ c ∈ t := by
  rw [← mem_intercalate hc, List.intercalate_splitOn]

/-- What stands between two neighbouring separators is a piece that is neither the first nor the
last. -/
theorem exists_of_mem_dropLast {separator : Char} {t first name : Text} {others : List Text}
    (hSplit : t.splitOn separator = first :: others) (hName : name ∈ others.dropLast) :
    ∃ u v, t = u ++ separator :: (name ++ separator :: v) := by
  rcases others.eq_nil_or_concat with rfl | ⟨inner, last, rfl⟩
  · exact absurd hName List.not_mem_nil
  · rw [List.concat_eq_append] at hSplit hName
    rw [List.dropLast_concat] at hName
    obtain ⟨before, after, rfl⟩ := List.append_of_mem hName
    have hEnd : ∃ v, (after ++ [last]).flatMap (separator :: ·) = separator :: v := by
      cases after with
      | nil => exact ⟨last, by simp⟩
      | cons next after => exact ⟨_, rfl⟩
    obtain ⟨v, hv⟩ := hEnd
    refine ⟨first ++ before.flatMap (separator :: ·), v, ?_⟩
    rw [eq_of_splitOn_cons hSplit, ← hv]
    simp

/-! ## Lines put together -/

/-- Lines that hold no line feed can be had back from the text in which each of them is ended by
one. -/
theorem splitOn_unlines {lines : List Text} (h : ∀ line ∈ lines, '\n' ∉ line) :
    (unlines lines).splitOn '\n' = lines ++ [[]] := by
  induction lines with
  | nil => rfl
  | cons line lines ih =>
    rw [List.forall_mem_cons] at h
    rw [unlines_cons, List.splitOn_append_cons_self_of_not_mem h.1, ih h.2, List.cons_append]

theorem feed_notMem_spaces (n : Nat) : '\n' ∉ spaces n :=
  fun hFeed => absurd (List.eq_of_mem_replicate hFeed) (by decide)

theorem feed_notMem_padRight {t : Text} (h : '\n' ∉ t) (width : Nat) : '\n' ∉ t.padRight width := by
  rw [padRight, List.mem_append, not_or]
  exact ⟨h, feed_notMem_spaces _⟩

theorem feed_notMem_padLeft {t : Text} (h : '\n' ∉ t) (width : Nat) : '\n' ∉ t.padLeft width := by
  rw [padLeft, List.mem_append, not_or]
  exact ⟨feed_notMem_spaces _, h⟩

end Text

end Tabletop
