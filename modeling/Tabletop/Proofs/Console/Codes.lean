import Mathlib.Data.List.Infix
import Tabletop.Console.Markup
import Tabletop.Proofs.Text.Split

/-!
# Text without codes

Plain text is not shown as it stands: a backslash in front of a bracket is dropped
(`Markup.dropEscapes`), and what then stands between two colons may be the name of an emoji. A text
in which there is no such name is `Markup.Uncoded`; of it only the backslashes are dropped
(`Markup.shown_of_uncoded`).
-/

namespace Tabletop

/-! ## Emoji codes -/

namespace Console

/-- Pieces of which none is the name of an emoji are put together again. -/
theorem joinCodes_of_forall {pieces : List Text}
    (h : ∀ name ∈ pieces.dropLast, name.any Text.isBlank = false → emoji? name = none) :
    joinCodes pieces = pieces.flatMap (':' :: ·) := by
  fun_induction joinCodes pieces with
  | case1 => rfl
  | case2 last => simp
  | case3 name next others hBlank ih =>
    rw [List.dropLast_cons_cons, List.forall_mem_cons] at h
    rw [ih h.2]
    rfl
  | case4 name next others hBlank ih =>
    rw [List.dropLast_cons_cons, List.forall_mem_cons] at h
    have hName : emoji? name = none := h.1 (by simpa using hBlank)
    have hOthers : ∀ other ∈ others.dropLast, other.any Text.isBlank = false →
        emoji? other = none := by
      intro other hOther
      cases others with
      | nil => exact absurd hOther List.not_mem_nil
      | cons second others =>
        exact h.2 other (by rw [List.dropLast_cons_cons]; exact List.mem_cons_of_mem next hOther)
    rw [ih hOthers, hName]
    simp

end Console

namespace Markup

/-! ## Backslashes in front of brackets -/

theorem dropEscapes_eq_self_iff {t : Text} : dropEscapes t = t ↔ ¬ ['\\', '['] <:+: t := by
  fun_induction dropEscapes t with
  | case1 rest ih =>
    refine iff_of_false (fun h => absurd (List.cons.inj h).1 (by decide)) (not_not_intro ?_)
    exact List.infix_append [] ['\\', '['] rest
  | case2 c rest hOther ih =>
    have hFirst : ¬ ['\\', '['] <+: c :: rest := by
      rintro ⟨t, ht⟩
      obtain ⟨rfl, hRest⟩ := List.cons.inj ht
      exact hOther t rfl hRest.symm
    rw [List.cons_inj_right, ih, List.infix_cons_iff, or_iff_right hFirst]
  | case3 => simp

theorem dropEscapes_of_not_mem {t : Text} (h : '[' ∉ t) : dropEscapes t = t :=
  dropEscapes_eq_self_iff.mpr fun hInfix => h (hInfix.mem (by simp))

/-- Backslashes at the end stay. -/
theorem dropEscapes_append_replicate (t : Text) (n : Nat) :
    dropEscapes (t ++ List.replicate n '\\') = dropEscapes t ++ List.replicate n '\\' := by
  fun_induction dropEscapes t with
  | case1 rest ih => rw [List.cons_append, List.cons_append, dropEscapes, ih, List.cons_append]
  | case2 c rest hOther ih =>
    rw [List.cons_append, dropEscapes, ih, List.cons_append]
    intro others hSlash hEq
    cases rest with
    | nil => exact absurd (List.eq_of_mem_replicate (hEq ▸ List.mem_cons_self)) (by decide)
    | cons d rest => exact hOther rest hSlash (by rw [(List.cons.inj hEq).1])
  | case3 => exact dropEscapes_of_not_mem (by simp)

theorem any_isBlank_dropEscapes (t : Text) :
    (dropEscapes t).any Text.isBlank = t.any Text.isBlank := by
  fun_induction dropEscapes t with
  | case1 rest ih =>
    have hSlash : Text.isBlank '\\' = false := by decide
    simp only [List.any_cons, ih, hSlash, Bool.false_or]
  | case2 c rest _ ih => simp only [List.any_cons, ih]
  | case3 => rfl

/-- Dropping them leaves the colons where they are. -/
theorem splitOn_dropEscapes (t : Text) :
    (dropEscapes t).splitOn ':' = (t.splitOn ':').map dropEscapes := by
  fun_induction dropEscapes t with
  | case1 rest ih =>
    obtain ⟨first, others, hSplit, -⟩ := Text.exists_pieces ':' rest
    simp [List.splitOn_cons_eq_if_modifyHead, ih, hSplit, dropEscapes]
  | case2 c rest hOther ih =>
    obtain ⟨first, others, hSplit, -, -, hWhole⟩ := Text.exists_pieces ':' rest
    by_cases hColon : c = ':'
    · simp [List.splitOn_cons_eq_if_modifyHead, hColon, ih, hSplit, dropEscapes]
    · have hFirst : dropEscapes (c :: first) = c :: dropEscapes first := by
        rw [dropEscapes]
        rintro t rfl rfl
        exact hOther (t ++ others.flatMap (':' :: ·)) rfl hWhole
      simp [List.splitOn_cons_eq_if_modifyHead, hColon, ih, hSplit, hFirst]
  | case3 => simp [dropEscapes]

/-! ## Uncoded text -/

/-- Nothing that stands between two colons of the text is the name of an emoji, once the backslashes
in front of brackets are dropped. -/
def Uncoded (t : Text) : Prop :=
  ∀ u name v, t = u ++ ':' :: (name ++ ':' :: v) → ':' ∉ name → name.any Text.isBlank = false →
    Console.emoji? (dropEscapes name) = none

theorem Uncoded.part {s t : Text} (h : Uncoded t) (hPart : s <:+: t) : Uncoded s := by
  obtain ⟨before, after, rfl⟩ := hPart
  rintro u name v rfl hName hBlank
  exact h (before ++ u) name (v ++ after) (by simp) hName hBlank

/-- A code ends with a colon, so none reaches into text without colons. -/
theorem Uncoded.append {t w : Text} (h : Uncoded t) (hColon : ':' ∉ w) : Uncoded (t ++ w) := by
  intro u name v hEq hName hBlank
  have hWhole : t ++ w = (u ++ ':' :: name) ++ ':' :: v := by simp [hEq]
  rcases List.append_eq_append_iff.mp hWhole with ⟨x, -, rfl⟩ | ⟨x, rfl, hRest⟩
  · exact absurd (by simp) hColon
  · cases x with
    | nil =>
      rw [List.nil_append] at hRest
      exact absurd (hRest ▸ List.mem_cons_self) hColon
    | cons c x =>
      obtain ⟨rfl, -⟩ := List.cons.inj hRest
      exact h u name x (by simp) hName hBlank

theorem uncoded_of_not_mem {t : Text} (h : ':' ∉ t) : Uncoded t := by
  rintro u name v rfl
  exact absurd (by simp) h

theorem shown_of_uncoded {t : Text} (h : Uncoded t) : shown t = dropEscapes t := by
  obtain ⟨first, others, hSplit, -, hNames, -⟩ := Text.exists_pieces ':' t
  have hPieces : (dropEscapes t).splitOn ':' = dropEscapes first :: others.map dropEscapes := by
    rw [splitOn_dropEscapes, hSplit, List.map_cons]
  have hCodes : Console.joinCodes (others.map dropEscapes) =
      (others.map dropEscapes).flatMap (':' :: ·) := by
    apply Console.joinCodes_of_forall
    rw [← List.map_dropLast, List.forall_mem_map]
    intro name hName hBlank
    obtain ⟨u, v, hWhole⟩ := Text.exists_of_mem_dropLast hSplit hName
    rw [any_isBlank_dropEscapes] at hBlank
    exact h u name v hWhole (hNames name (List.mem_of_mem_dropLast hName)) hBlank
  rw [shown, Console.replaceEmoji, hPieces]
  dsimp only
  rw [hCodes, ← Text.eq_of_splitOn_cons hPieces]

end Markup

end Tabletop
