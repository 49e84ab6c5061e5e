import Tabletop.Proofs.Console.Printed
import Tabletop.Proofs.Console.Shown

/-!
# What is shown of escaped text

An escaped text has no tags, and is still not always shown as it was: a backslash in front of a
bracket that begins no tag is dropped (`Markup.dropLoose`), and a single backslash at the end is
doubled (`Markup.doubled`). Of a text without emoji codes nothing else changes
(`Markup.shownIn_escape`), so that it is shown as it was exactly if it has no such backslash
(`Markup.render_escape_eq_self_iff`).

As for the tags of an escaped text, the induction is on the brackets that are still to come, and the
text before them is `Markup.Tagless`.
-/

namespace Tabletop

namespace Markup

/-! ## Loose backslashes -/

theorem opensTag_iff (t : Text) : OpensTag t ↔ tag? (t.takeWhile (· ≠ '[')) ≠ none := by
  have hOpen : '[' ∉ t.takeWhile (· ≠ '[') := by
    intro hMem
    simpa using List.mem_takeWhile_imp hMem
  rw [← opensTag_iff_tag? hOpen]
  have hWhole : t.takeWhile (· ≠ '[') ++ t.dropWhile (· ≠ '[') = t :=
    List.takeWhile_append_dropWhile
  cases hRest : t.dropWhile (· ≠ '[') with
  | nil =>
    rw [hRest, List.append_nil] at hWhole
    rw [hWhole]
  | cons c rest =>
    have hc : c = '[' := by
      have hHead := List.head?_dropWhile_not (· ≠ '[') t
      rw [hRest] at hHead
      simpa using hHead
    rw [hRest, hc] at hWhole
    conv_lhs => rw [← hWhole]
    exact opensTag_append_bracket

instance : DecidablePred OpensTag := fun t => decidable_of_iff _ (opensTag_iff t).symm

/-- `t` without the backslash of every bracket that has one and begins no tag. -/
def dropLoose : Text → Text
  | '\\' :: '[' :: rest =>
    if OpensTag rest then '\\' :: '[' :: dropLoose rest else '[' :: dropLoose rest
  | c :: rest => c :: dropLoose rest
  | [] => []

/-- A bracket that begins no tag has a backslash in front. -/
def HasLoose (t : Text) : Prop := ∃ u v, t = u ++ '\\' :: '[' :: v ∧ ¬ OpensTag v

theorem dropLoose_cons {c : Char} {t : Text} (h : ∀ rest, c = '\\' → t ≠ '[' :: rest) :
    dropLoose (c :: t) = c :: dropLoose t := by
  rw [dropLoose]
  rintro rest rfl rfl
  exact h rest rfl rfl

/-- Where dropping and adding at the end give the text again, nothing is dropped. -/
theorem dropLoose_append_eq {t x y : Text} (h : dropLoose t ++ x = t ++ y) :
    dropLoose t = t ∧ x = y := by
  fun_induction dropLoose t with
  | case1 rest hTag ih =>
    obtain ⟨hRest, hEnd⟩ := ih (List.cons.inj (List.cons.inj h).2).2
    exact ⟨by rw [hRest], hEnd⟩
  | case2 rest hTag ih => exact absurd (List.cons.inj h).1 (by decide)
  | case3 c rest hOther ih =>
    obtain ⟨hRest, hEnd⟩ := ih (List.cons.inj h).2
    exact ⟨by rw [hRest], hEnd⟩
  | case4 => exact ⟨rfl, h⟩

theorem hasLoose_cons {c : Char} {t : Text} :
    HasLoose (c :: t) ↔ (c = '\\' ∧ ∃ v, t = '[' :: v ∧ ¬ OpensTag v) ∨ HasLoose t := by
  constructor
  · rintro ⟨u, v, hEq, hTag⟩
    cases u with
    | nil =>
      obtain ⟨rfl, rfl⟩ := List.cons.inj hEq
      exact Or.inl ⟨rfl, v, rfl, hTag⟩
    | cons d u => exact Or.inr ⟨u, v, (List.cons.inj hEq).2, hTag⟩
  · rintro (⟨rfl, v, rfl, hTag⟩ | ⟨u, v, rfl, hTag⟩)
    · exact ⟨[], v, rfl, hTag⟩
    · exact ⟨c :: u, v, rfl, hTag⟩

theorem dropLoose_eq_self_iff {t : Text} : dropLoose t = t ↔ ¬ HasLoose t := by
  fun_induction dropLoose t with
  | case1 rest hTag ih =>
    simp [hasLoose_cons, ih, hTag]
  | case2 rest hTag ih =>
    refine iff_of_false (fun h => absurd (List.cons.inj h).1 (by decide)) (not_not_intro ?_)
    exact hasLoose_cons.mpr (Or.inl ⟨rfl, rest, rfl, hTag⟩)
  | case3 c rest hOther ih =>
    have hFirst : ¬ (c = '\\' ∧ ∃ v, rest = '[' :: v ∧ ¬ OpensTag v) := by
      rintro ⟨rfl, v, rfl, -⟩
      exact hOther v rfl rfl
    rw [List.cons_inj_right, ih, hasLoose_cons, or_iff_right hFirst]
  | case4 =>
    refine iff_of_true rfl ?_
    rintro ⟨u, v, hEq, -⟩
    simp at hEq

/-- In a text without tags every backslash in front of a bracket is loose, whatever tag follows. -/
theorem Tagless.dropLoose_append {t w : Text} (h : Tagless t)
    (hw : w = [] ∨ ∃ v, w = '[' :: v ∧ OpensTag v) :
    dropLoose (t ++ w) = dropEscapes t ++ dropLoose w := by
  rw [tagless_iff] at h
  fun_induction dropEscapes t with
  | case1 rest ih =>
    have hNone : ¬ OpensTag (rest ++ w) := by
      have hRest : ¬ OpensTag rest := h ['\\'] rest rfl
      rcases hw with rfl | ⟨v, rfl, -⟩
      · rwa [List.append_nil]
      · rwa [opensTag_append_bracket]
    have hOthers : ∀ u v, rest = u ++ '[' :: v → ¬ OpensTag v := by
      rintro u v rfl
      exact h ('\\' :: '[' :: u) v rfl
    rw [List.cons_append, List.cons_append, dropLoose, if_neg hNone, ih hOthers, List.cons_append]
  | case2 c rest hOther ih =>
    have hOthers : ∀ u v, rest = u ++ '[' :: v → ¬ OpensTag v := by
      rintro u v rfl
      exact h (c :: u) v rfl
    cases rest with
    | nil =>
      rcases hw with rfl | ⟨v, rfl, hTag⟩
      · rw [List.append_nil, dropLoose_cons (by simp)]
        rfl
      · by_cases hc : c = '\\'
        · -- The last backslash stands in front of a tag and is not loose.
          rw [hc, List.cons_append, List.nil_append, dropLoose, if_pos hTag, dropEscapes,
            dropLoose_cons (by simp)]
          rfl
        · rw [List.cons_append, dropLoose_cons (fun _ hSlash => absurd hSlash hc), ih hOthers]
          rfl
    | cons d rest =>
      rw [List.cons_append, dropLoose_cons, ih hOthers, List.cons_append]
      rintro others hSlash hEq
      exact hOther rest hSlash (by rw [(List.cons.inj hEq).1])
  | case3 => rfl

/-- Text without brackets is not changed in front of anything but a bracket. -/
theorem dropLoose_append_cons {u : Text} (h : '[' ∉ u) {c : Char} (hc : c ≠ '[') (t : Text) :
    dropLoose (u ++ c :: t) = u ++ dropLoose (c :: t) := by
  induction u with
  | nil => rfl
  | cons d u ih =>
    rw [List.mem_cons, not_or] at h
    rw [List.cons_append, dropLoose_cons, ih h.2, List.cons_append]
    rintro rest - hEq
    cases u with
    | nil => exact hc (List.cons.inj hEq).1
    | cons e u => exact h.2 ((List.cons.inj hEq).1 ▸ List.mem_cons_self)

/-! ## Escaped tags -/

theorem trimSlashes_append_replicate (t : Text) (n : Nat) :
    trimSlashes (t ++ List.replicate n '\\') = trimSlashes t := by
  unfold trimSlashes
  rw [List.reverse_append, List.reverse_replicate, List.dropWhile_append_of_pos (by simp)]

theorem dropEscapes_trimSlashes_append (t : Text) :
    dropEscapes (trimSlashes t) ++ List.replicate (backslashes t) '\\' = dropEscapes t := by
  rw [← dropEscapes_append_replicate, trimSlashes_append]

/-- Behind an odd number of backslashes, a tag is shown. -/
theorem shownIn_escaped_tag {before body : Text} (hBefore : Tagless before) (hBody : IsTag body)
    (hOpen : '[' ∉ body) (stack : List Text) (t : Text) :
    shownIn stack (before ++ List.replicate (backslashes before + 1) '\\' ++
        '[' :: (body ++ ']' :: t)) =
      (shownIn stack t).map fun rest => shown (trimSlashes before) ++
        (List.replicate (backslashes before) '\\' ++ (shown ('[' :: (body ++ [']'])) ++ rest)) := by
  have hInner : '[' ∉ body ++ [']'] := by simpa using hOpen
  have hSlashes : Tagless (before ++ List.replicate (backslashes before + 1) '\\') :=
    hBefore.append (by simp) (by simp)
  have hCount : backslashes (before ++ List.replicate (backslashes before + 1) '\\') =
      2 * backslashes before + 1 := by
    rw [backslashes_append_replicate]
    omega
  have hHalf : (2 * backslashes before + 1) / 2 = backslashes before := by omega
  obtain ⟨first, others, hSplit, -⟩ := Text.exists_pieces '[' t
  have hTag : tag? (body ++ ']' :: first) = some (body, first) := tag?_eq_some_iff.mpr ⟨rfl, hBody⟩
  have hRest : (body ++ ']' :: t).splitOn '[' = (body ++ ']' :: first) :: others := by
    have hJoined := Text.splitOn_append_of_not_mem hInner hSplit
    simpa using hJoined
  rw [hSlashes.shownIn_append_bracket, hRest, shownFrom_escaped hTag (by omega), hCount, hHalf,
    trimSlashes_append_replicate, shownIn_of_splitOn hSplit]

/-! ## Escaped text -/

theorem Tagless.dropLoose_tag {before body : Text} (h : Tagless before) (hBody : IsTag body)
    (hOpen : '[' ∉ body) (t : Text) :
    dropLoose (before ++ '[' :: (body ++ ']' :: t)) =
      dropEscapes before ++ '[' :: (body ++ ']' :: dropLoose t) := by
  have hTag : OpensTag (body ++ ']' :: t) := ⟨body, t, rfl, hBody, hOpen⟩
  rw [h.dropLoose_append (Or.inr ⟨_, rfl, hTag⟩), dropLoose_cons (by simp),
    dropLoose_append_cons hOpen (by decide), dropLoose_cons (by simp)]

theorem shown_tag {body : Text} (hOpen : '[' ∉ body) (hCodes : Uncoded ('[' :: (body ++ [']']))) :
    shown ('[' :: (body ++ [']'])) = '[' :: (body ++ [']']) := by
  rw [shown_of_uncoded hCodes, dropEscapes, dropEscapes_of_not_mem (by simpa using hOpen)]
  simp

/-- `n` is the number of backslashes that the escaping adds at the very end. -/
theorem shownIn_escapeSegments_append {before : Text} {segments : List Text}
    (hBefore : Tagless before) (hSegments : ∀ segment ∈ segments, '[' ∉ segment)
    (hCodes : Uncoded (before ++ segments.flatMap ('[' :: ·))) (n : Nat) :
    shownIn [] (escapeSegments before segments ++ List.replicate n '\\') =
      some (dropLoose (before ++ segments.flatMap ('[' :: ·)) ++ List.replicate n '\\') := by
  induction segments generalizing before with
  | nil =>
    rw [List.flatMap_nil, List.append_nil] at hCodes
    have hEnd : Tagless (before ++ List.replicate n '\\') := hBefore.append (by simp) (by simp)
    have hLoose : dropLoose before = dropEscapes before := by
      have hAppend := hBefore.dropLoose_append (Or.inl rfl)
      simpa [dropLoose] using hAppend
    rw [escapeSegments, hEnd.shownIn_eq, shown_of_uncoded (hCodes.append (by simp)),
      dropEscapes_append_replicate, List.flatMap_nil, List.append_nil, hLoose]
  | cons segment segments ih =>
    rw [List.forall_mem_cons] at hSegments
    unfold escapeSegments
    cases hTag : tag? segment with
    | none =>
      rw [append_flatMap_of_none] at hCodes ⊢
      exact ih (.bracket hBefore hSegments.1 hTag) hSegments.2 hCodes
    | some found =>
      -- Half of the backslashes that the escaping leaves are shown, which are those there were.
      obtain ⟨body, rest⟩ := found
      rw [append_flatMap_of_tag hTag] at hCodes
      obtain ⟨hBeforeCodes, hBodyCodes, hRestCodes⟩ := uncoded_of_tag hCodes
      obtain ⟨rfl, hBody⟩ := tag?_eq_some_iff.mp hTag
      have hOpen : '[' ∉ body := fun hMem => hSegments.1 (List.mem_append_left _ hMem)
      have hRest : '[' ∉ rest := by
        exact fun hMem => hSegments.1 (List.mem_append_right _ (List.mem_cons_of_mem _ hMem))
      have hEscaped := shownIn_escaped_tag hBefore hBody hOpen []
        (escapeSegments rest segments ++ List.replicate n '\\')
      rw [ih (.text hRest) hSegments.2 hRestCodes, Option.map_some, shown_of_uncoded hBeforeCodes,
        shown_tag hOpen hBodyCodes, ← List.append_assoc, dropEscapes_trimSlashes_append] at hEscaped
      have hLoose := hBefore.dropLoose_tag hBody hOpen (rest ++ segments.flatMap ('[' :: ·))
      simpa [hLoose] using hEscaped

/-- Escaping leaves the backslashes at the very end. -/
theorem backslashes_escapeSegments (before : Text) (segments : List Text) :
    backslashes (escapeSegments before segments) =
      backslashes (before ++ segments.flatMap ('[' :: ·)) := by
  induction segments generalizing before with
  | nil => simp [escapeSegments]
  | cons segment segments ih =>
    unfold escapeSegments
    cases hTag : tag? segment with
    | none => simp [ih]
    | some found =>
      obtain ⟨body, rest⟩ := found
      obtain ⟨rfl, -⟩ := tag?_eq_some_iff.mp hTag
      have hEscaped := backslashes_append_cons (c := ']') (by decide)
        (before ++ List.replicate (backslashes before + 1) '\\' ++ '[' :: body)
        (escapeSegments rest segments)
      have hWhole := backslashes_append_cons (c := ']') (by decide) (before ++ '[' :: body)
        (rest ++ segments.flatMap ('[' :: ·))
      rw [ih] at hEscaped
      simpa using hEscaped.trans hWhole.symm

/-- What is shown of the escaped form of `t`, if no emoji codes stand in it: `t` without its loose
backslashes, and with a single backslash at the end doubled. -/
def shownEscaped (t : Text) : Text :=
  dropLoose t ++ List.replicate (if backslashes t = 1 then 1 else 0) '\\'

theorem shownIn_escape {t : Text} (hCodes : Uncoded t) :
    shownIn [] (escape t) = some (shownEscaped t) := by
  obtain ⟨before, segments, hSplit, hBefore, hSegments, hWhole⟩ := Text.exists_pieces '[' t
  have hEscape : escape t = escapeSegments before segments ++
      List.replicate (if backslashes t = 1 then 1 else 0) '\\' := by
    simp only [escape, hSplit, backslashes_escapeSegments, ← hWhole]
    split <;> simp
  rw [hWhole] at hCodes
  rw [hEscape, shownIn_escapeSegments_append (.text hBefore) hSegments hCodes, ← hWhole,
    shownEscaped]

/-! ## Text that is shown as it was -/

theorem dropLoose_sublist (t : Text) : (dropLoose t).Sublist t := by
  fun_induction dropLoose t with
  | case1 rest hTag ih => exact (ih.cons_cons '[').cons_cons '\\'
  | case2 rest hTag ih => exact (ih.cons_cons '[').cons '\\'
  | case3 c rest hOther ih => exact ih.cons_cons c
  | case4 => exact .slnil

theorem shownEscaped_subset (t : Text) : shownEscaped t ⊆ t := by
  intro c hc
  rcases List.mem_append.mp hc with hMem | hSlash
  · exact (dropLoose_sublist t).subset hMem
  · rw [List.eq_of_mem_replicate hSlash]
    split at hSlash
    · rename_i hOne
      rw [← trimSlashes_append t, hOne]
      exact List.mem_append_right _ (List.mem_singleton_self _)
    · cases hSlash

theorem controlFree_shownEscaped {t : Text} (h : Text.ControlFree t) :
    Text.ControlFree (shownEscaped t) :=
  h.of_subset (shownEscaped_subset t)

theorem render_escape {t : Text} (hFree : Text.ControlFree t) (hCodes : Uncoded t) :
    render (escape t) = .ok (shownEscaped t) :=
  render_of_shownIn (shownIn_escape hCodes) (controlFree_shownEscaped hFree).filter_isDropped

theorem shownEscaped_eq_self_iff {t : Text} :
    shownEscaped t = t ↔ ¬ HasLoose t ∧ backslashes t ≠ 1 := by
  rw [← dropLoose_eq_self_iff, shownEscaped]
  constructor
  · intro hSame
    obtain ⟨hLoose, hNone⟩ := dropLoose_append_eq (hSame.trans (List.append_nil t).symm)
    refine ⟨hLoose, fun hOne => ?_⟩
    rw [if_pos hOne] at hNone
    cases hNone
  · rintro ⟨hLoose, hMany⟩
    rw [if_neg hMany, hLoose]
    exact List.append_nil t

theorem getLast?_dropLoose (t : Text) : (dropLoose t).getLast? = t.getLast? := by
  fun_induction dropLoose t with
  | case1 rest hTag ih => simp [List.getLast?_cons, ih]
  | case2 rest hTag ih => simp [List.getLast?_cons, ih]
  | case3 c rest hOther ih => simp [List.getLast?_cons, ih]
  | case4 => rfl

/-- What is shown of an escaped text ends as the text does. -/
theorem getLast?_shownEscaped (t : Text) : (shownEscaped t).getLast? = t.getLast? := by
  rw [shownEscaped]
  split
  · rename_i hOne
    have hEnd : t.getLast? = some '\\' := by
      rw [← trimSlashes_append t, hOne, List.replicate_one, List.getLast?_concat]
    rw [List.replicate_one, List.getLast?_concat, hEnd]
  · rw [List.replicate_zero, List.append_nil, getLast?_dropLoose]

end Markup

end Tabletop
