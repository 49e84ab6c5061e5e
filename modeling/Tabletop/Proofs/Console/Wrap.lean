import Mathlib.Algebra.Ring.Nat
import Mathlib.Data.List.SplitBy
import Tabletop.Console.Wrap
import Tabletop.Proofs.Text.Strip

/-!
# Lines that fit into their column

A trimmed line stays a single line in its column, with all of its characters, exactly if it takes no
more cells than the column has (`Console.wrap_eq_singleton_iff`). One half rests on the words: put
together, they take as many cells as each of them on its own, or more
(`Console.sum_cells_le`). The other half rests on the ellipsis: a line that is cut short
fits (`Console.cells_cutShort_le`).
-/

namespace Tabletop

namespace Console

/-! ## Cells of texts put together -/

theorem cellsAfter_joiner (last : Option Char) (rest : Text) :
    cellsAfter last (joiner :: rest) = cellsAfter last rest.tail := by
  cases rest <;> rw [cellsAfter, if_pos rfl] <;> rfl

theorem cellsAfter_selector (last : Option Char) (rest : Text) :
    cellsAfter last (emojiSelector :: rest) = widening last + cellsAfter none rest := by
  rw [cellsAfter.eq_def]
  rfl

theorem cellsAfter_cons {c : Char} (hJoiner : c ≠ joiner) (hSelector : c ≠ emojiSelector)
    (last : Option Char) (rest : Text) :
    cellsAfter last (c :: rest) =
      charCells c + cellsAfter (if charCells c = 0 then last else some c) rest := by
  rw [cellsAfter.eq_def]
  simp only [if_neg hJoiner, if_neg hSelector]

/-- What a text takes behind another one does not depend on that, but for the character that the
emoji selector could still widen and for the one that a joiner at the end takes into itself. -/
theorem exists_cellsAfter_append (last : Option Char) (u : Text) :
    ∃ carried,
      (∀ v, cellsAfter last (u ++ v) = cellsAfter last u + cellsAfter carried v) ∨
      u.getLast? = some joiner ∧
        ∀ v, cellsAfter last (u ++ v) = cellsAfter last u + cellsAfter carried v.tail := by
  have hLonger : ∀ {c : Char} {t : Text}, t.getLast? = some joiner →
      (c :: t).getLast? = some joiner := by
    intro c t h
    rw [List.getLast?_cons, h, Option.getD_some]
  fun_induction cellsAfter last u with
  | case1 last => exact ⟨last, Or.inl fun v => (Nat.zero_add _).symm⟩
  | case2 last =>
    refine ⟨last, Or.inr ⟨rfl, fun v => ?_⟩⟩
    rw [List.singleton_append, cellsAfter_joiner, Nat.zero_add]
  | case3 last c others ih =>
    have hStep : ∀ v,
        cellsAfter last (joiner :: c :: others ++ v) = cellsAfter last (others ++ v) :=
      fun v => cellsAfter_joiner last (c :: others ++ v)
    obtain ⟨carried, hCells | ⟨hLast, hCells⟩⟩ := ih
    · exact ⟨carried, Or.inl fun v => (hStep v).trans (hCells v)⟩
    · exact ⟨carried, Or.inr ⟨hLonger (hLonger hLast), fun v => (hStep v).trans (hCells v)⟩⟩
  | case4 last u hJoiner ih =>
    obtain ⟨carried, hCells | ⟨hLast, hCells⟩⟩ := ih
    · refine ⟨carried, Or.inl fun v => ?_⟩
      rw [List.cons_append, cellsAfter_selector, hCells, Nat.add_assoc]
    · refine ⟨carried, Or.inr ⟨hLonger hLast, fun v => ?_⟩⟩
      rw [List.cons_append, cellsAfter_selector, hCells, Nat.add_assoc]
  | case5 last c u hJoiner hSelector ih =>
    obtain ⟨carried, hCells | ⟨hLast, hCells⟩⟩ := ih
    · refine ⟨carried, Or.inl fun v => ?_⟩
      rw [List.cons_append, cellsAfter_cons hJoiner hSelector, hCells, Nat.add_assoc]
    · refine ⟨carried, Or.inr ⟨hLonger hLast, fun v => ?_⟩⟩
      rw [List.cons_append, cellsAfter_cons hJoiner hSelector, hCells, Nat.add_assoc]

theorem cells_le_cellsAfter (last : Option Char) (t : Text) : cells t ≤ cellsAfter last t := by
  unfold cells
  fun_induction cellsAfter last t with
  | case1 last => exact Nat.le_refl 0
  | case2 last => exact Nat.le_refl 0
  | case3 last c others ih => rwa [cellsAfter_joiner]
  | case4 last t hJoiner ih =>
    rw [cellsAfter_selector]
    exact Nat.add_le_add_right (Nat.zero_le _) _
  | case5 last c t hJoiner hSelector ih =>
    rw [cellsAfter_cons hJoiner hSelector]
    by_cases hZero : charCells c = 0
    · rw [if_pos hZero] at ih
      rw [if_pos hZero, if_pos hZero]
      exact Nat.add_le_add_left ih _
    · rw [if_neg hZero, if_neg hZero]

/-- The emoji selector gives one further cell at most. -/
theorem cellsAfter_le (last : Option Char) (t : Text) : cellsAfter last t ≤ cells t + 1 := by
  have hWidening : widening last ≤ 1 := by
    cases last with
    | none => exact Nat.zero_le 1
    | some c =>
      rw [widening]
      split <;> decide
  unfold cells
  fun_induction cellsAfter last t with
  | case1 last => exact Nat.zero_le 1
  | case2 last => exact Nat.zero_le 1
  | case3 last c others ih => rw [cellsAfter_joiner]; exact ih hWidening
  | case4 last t hJoiner ih =>
    rw [cellsAfter_selector, widening]
    omega
  | case5 last c t hJoiner hSelector ih =>
    rw [cellsAfter_cons hJoiner hSelector]
    by_cases hZero : charCells c = 0
    · rw [if_pos hZero] at ih
      rw [if_pos hZero, if_pos hZero]
      exact Nat.add_le_add_left (ih hWidening) _
    · rw [if_neg hZero, if_neg hZero]
      exact Nat.le_succ _

theorem cells_le_append (u v : Text) : cells u ≤ cells (u ++ v) := by
  obtain ⟨carried, hCells | ⟨-, hCells⟩⟩ := exists_cellsAfter_append none u
  · exact Nat.le.intro (hCells v).symm
  · exact Nat.le.intro (hCells v).symm

/-- Behind a text that does not end with a joiner, all of another one counts. -/
theorem cells_add_le {u : Text} (h : u.getLast? ≠ some joiner) (v : Text) :
    cells u + cells v ≤ cells (u ++ v) := by
  obtain ⟨carried, hCells | ⟨hLast, -⟩⟩ := exists_cellsAfter_append none u
  · calc cells u + cells v ≤ cells u + cellsAfter carried v :=
          Nat.add_le_add_left (cells_le_cellsAfter carried v) _
      _ = cells (u ++ v) := (hCells v).symm
  · exact absurd hLast h

theorem cellsAfter_single {c : Char} (h : charCells c = 1) (last : Option Char) (rest : Text) :
    cellsAfter last (c :: rest) = 1 + cellsAfter (some c) rest := by
  have hJoiner : c ≠ joiner := by
    rintro rfl
    exact absurd h (by decide +kernel)
  have hSelector : c ≠ emojiSelector := by
    rintro rfl
    exact absurd h (by decide +kernel)
  rw [cellsAfter_cons hJoiner hSelector, h, if_neg Nat.one_ne_zero]

/-- Characters that take one cell each, whatever stands before them. -/
theorem cellsAfter_eq_length {t : Text} (h : ∀ c ∈ t, charCells c = 1) (last : Option Char) :
    cellsAfter last t = t.length := by
  induction t generalizing last with
  | nil => rfl
  | cons c t ih =>
    rw [List.forall_mem_cons] at h
    rw [cellsAfter_single h.1, ih h.2, List.length_cons, Nat.add_comm]

theorem cells_append_le (u : Text) {v : Text} (h : ∀ c ∈ v, charCells c = 1) :
    cells (u ++ v) ≤ cells u + v.length := by
  obtain ⟨carried, hCells | ⟨-, hCells⟩⟩ := exists_cellsAfter_append none u
  · rw [cells, hCells, cellsAfter_eq_length h]
    exact Nat.le_refl _
  · have hTail : ∀ c ∈ v.tail, charCells c = 1 := fun c hc => h c (List.mem_of_mem_tail hc)
    rw [cells, hCells, cellsAfter_eq_length hTail, List.length_tail]
    exact Nat.add_le_add_left (Nat.sub_le _ _) _

/-- A character that takes one cell, in front of another one, makes no text narrower. -/
theorem cells_append_cons_le {c d : Char} (hc : charCells c = 1) (hd : charCells d = 1)
    (u v : Text) : cells (u ++ d :: v) ≤ cells (u ++ c :: d :: v) := by
  obtain ⟨carried, hCells | ⟨-, hCells⟩⟩ := exists_cellsAfter_append none u
  · rw [cells, cells, hCells, hCells, cellsAfter_single hd, cellsAfter_single hc,
      cellsAfter_single hd]
    omega
  · -- A joiner takes in the one character or the other.
    have hCarried := cellsAfter_le carried v
    have hRest := cells_le_cellsAfter (some d) v
    rw [cells, cells, hCells, hCells, List.tail_cons, List.tail_cons, cellsAfter_single hd]
    omega

theorem charCells_of_mem_spaces {n : Nat} {c : Char} (hc : c ∈ Text.spaces n) :
    charCells c = 1 := by
  rw [List.eq_of_mem_replicate hc]
  decide +kernel

/-! ## Words on lines -/

/-- Two characters stand in one word, unless a word begins behind the blanks of another one. -/
abbrev sameWord (c next : Char) : Bool := !Text.isBlank c || Text.isBlank next

theorem flatten_spacedWords (line : Text) : (spacedWords line).flatten = line := by
  have hFlatten := List.flatten_splitBy sameWord line
  rw [spacedWords]
  split
  · rename_i first next others hSplit
    rw [hSplit] at hFlatten
    split
    · simpa using hFlatten
    · exact hFlatten
  · exact hFlatten

/-- Every word but the last ends with a blank, and so not with a joiner. -/
theorem isChain_spacedWords (line : Text) :
    (spacedWords line).IsChain fun word _ => word.getLast? ≠ some joiner := by
  have hEnds : ∀ word next : Text, (∃ hWord hNext, sameWord (word.getLast hWord)
      (next.head hNext) = false) → word.getLast? ≠ some joiner := by
    rintro word next ⟨hWord, hNext, hApart⟩ hLast
    rw [List.getLast?_eq_some_getLast hWord, Option.some_inj] at hLast
    have hBlank : Text.isBlank joiner = false := by decide
    simp [sameWord, hLast, hBlank] at hApart
  have hWords := (List.isChain_getLast_head_splitBy sameWord line).imp hEnds
  rw [spacedWords]
  split
  · rename_i first next others hSplit
    rw [hSplit] at hWords
    split
    · have hNext : next ≠ [] := by
        apply List.ne_nil_of_mem_splitBy (r := sameWord) (l := line)
        rw [hSplit]
        exact List.mem_cons_of_mem _ List.mem_cons_self
      cases others with
      | nil => exact List.isChain_singleton _
      | cons other others =>
        rw [List.isChain_cons_cons, List.isChain_cons_cons] at hWords
        rw [List.isChain_cons_cons, List.getLast?_append_of_ne_nil _ hNext]
        exact hWords.2
    · exact hWords
  · exact hWords

/-- Words take no more cells each on its own than they do together. -/
theorem sum_cells_le {words : List Text}
    (h : words.IsChain fun word _ => word.getLast? ≠ some joiner) :
    (words.map cells).sum ≤ cells words.flatten := by
  induction words with
  | nil => exact Nat.le_refl 0
  | cons word words ih =>
    rw [List.map_cons, List.sum_cons, List.flatten_cons]
    cases words with
    | nil => simp
    | cons next words =>
      rw [List.isChain_cons_cons] at h
      exact (Nat.add_le_add_left (ih h.2) _).trans (cells_add_le h.1 _)

theorem cells_stripEnd_le (t : Text) : cells t.stripEnd ≤ cells t := by
  obtain ⟨right, -, hWhole⟩ := Text.exists_blanks_stripEnd t
  conv_rhs => rw [hWhole]
  exact cells_le_append _ _

/-- Words that have room on the line are all laid on it. -/
theorem layWords_of_sum_le {width taken : Nat} {words : List Text}
    (h : taken + (words.map cells).sum ≤ width) (line : Text) :
    layWords width line taken words = [line ++ words.flatten] := by
  induction words generalizing line taken with
  | nil => simp [layWords]
  | cons word words ih =>
    rw [List.map_cons, List.sum_cons] at h
    have hWord : taken + cells word.stripEnd ≤ width := by
      have hStrip := cells_stripEnd_le word
      omega
    rw [layWords, if_pos hWord, ih (by omega), List.append_assoc, List.flatten_cons]

theorem flatten_layWords (width : Nat) (line : Text) (taken : Nat) (words : List Text) :
    (layWords width line taken words).flatten = line ++ words.flatten := by
  fun_induction layWords width line taken words with
  | case1 line taken => rw [List.flatten_singleton, List.flatten_nil, List.append_nil]
  | case2 line taken word words hRoom ih => rw [ih, List.append_assoc, List.flatten_cons]
  | case3 taken word words hRoom ih => rw [ih, List.flatten_cons, List.nil_append]
  | case4 line taken word words hRoom hLine ih => rw [List.flatten_cons, ih, List.flatten_cons]

theorem layWords_ne_nil (width : Nat) (line : Text) (taken : Nat) (words : List Text) :
    layWords width line taken words ≠ [] := by
  fun_induction layWords width line taken words with
  | case1 line taken => exact List.cons_ne_nil _ _
  | case2 line taken word words hRoom ih => exact ih
  | case3 taken word words hRoom ih => exact ih
  | case4 line taken word words hRoom hLine ih => exact List.cons_ne_nil _ _

/-! ## Lines that are cut short -/

theorem trimBeyond_of_length_le {width : Nat} {t : Text} (h : t.length ≤ width) :
    trimBeyond width t = t :=
  List.take_of_length_le (h.trans (Nat.le_max_left _ _))

theorem trimBeyond_of_stripEnd {t : Text} (h : t.stripEnd = t) (width : Nat) :
    trimBeyond width t = t := by
  rw [trimBeyond, h]
  exact List.take_of_length_le (Nat.le_max_right _ _)

theorem cells_padCells_le {t : Text} {width : Nat} (h : cells t ≤ width) :
    cells (padCells width t) ≤ width := by
  have hSpaces := cells_append_le t fun c hc => charCells_of_mem_spaces (n := width - cells t) hc
  rw [Text.length_spaces] at hSpaces
  rw [padCells]
  omega

theorem cells_takeCells_le (room : Nat) (t : Text) : cells (takeCells room t) ≤ room := by
  apply cells_padCells_le
  cases hLast : ((List.range t.length).filter fun n =>
      cutsAt t n && decide (cells (t.take n) ≤ room)).getLast? with
  | none =>
    rw [List.getLastD_eq_getLast?, hLast]
    exact Nat.zero_le room
  | some n =>
    have hFits := (List.mem_filter.mp (List.mem_of_getLast? hLast)).2
    rw [Bool.and_eq_true, decide_eq_true_eq] at hFits
    rw [List.getLastD_eq_getLast?, hLast]
    exact hFits.2

theorem cells_cutShort_le {width : Nat} (hWidth : 0 < width) (t : Text) :
    cells (cutShort width t) ≤ width := by
  rw [cutShort]
  split
  · assumption
  · have hEllipsis : charCells '…' = 1 := by decide +kernel
    have hCut := cells_append_le (takeCells (width - 1) t) (List.forall_mem_singleton.mpr hEllipsis)
    have hTaken := cells_takeCells_le (width - 1) t
    rw [List.length_singleton] at hCut
    omega

theorem cutShort_eq_self_iff {width : Nat} (hWidth : 0 < width) {t : Text} :
    cutShort width t = t ↔ cells t ≤ width :=
  ⟨fun h => h ▸ cells_cutShort_le hWidth t, fun h => if_pos h⟩

/-! ## Columns -/

theorem wrap_of_cells_le {width : Nat} {t : Text} (ht : trimBeyond width t = t)
    (h : cells t ≤ width) : wrap width t = [t] := by
  have hWords := sum_cells_le (isChain_spacedWords t)
  rw [flatten_spacedWords] at hWords
  rw [wrap, layWords_of_sum_le (by omega), flatten_spacedWords, List.nil_append,
    List.map_singleton, ht, cutShort, if_pos h]

theorem cells_le_of_mem_wrap {width : Nat} (hWidth : 0 < width) {part t : Text}
    (h : part ∈ wrap width t) : cells part ≤ width := by
  obtain ⟨line, -, rfl⟩ := List.mem_map.mp h
  exact cells_cutShort_le hWidth _

theorem wrap_ne_nil (width : Nat) (t : Text) : wrap width t ≠ [] :=
  mt List.map_eq_nil_iff.mp (layWords_ne_nil _ _ _ _)

/-- A line without blanks at its end is kept in one piece exactly if it fits into the column. -/
theorem wrap_eq_singleton_iff {width : Nat} (hWidth : 0 < width) {t : Text}
    (ht : t.stripEnd = t) : wrap width t = [t] ↔ cells t ≤ width := by
  refine ⟨fun hWrap => cells_le_of_mem_wrap (t := t) hWidth ?_,
    wrap_of_cells_le (trimBeyond_of_stripEnd ht width)⟩
  rw [hWrap]
  exact List.mem_singleton_self t

/-- What a line is if it stays a single one. -/
theorem eq_cutShort_of_wrap {width : Nat} {part t : Text} (h : wrap width t = [part]) :
    part = cutShort width (trimBeyond width t) := by
  obtain ⟨line, hLay, rfl⟩ := List.map_eq_singleton_iff.mp h
  have hFlatten := flatten_layWords width [] 0 (spacedWords t)
  rw [hLay, flatten_spacedWords, List.flatten_singleton, List.nil_append] at hFlatten
  rw [hFlatten]

/-- A line without blanks is not broken, but cut short. -/
theorem wrap_of_unbroken {t : Text} (h : ∀ c ∈ t, Text.isBlank c = false) (width : Nat) :
    wrap width t = [cutShort width t] := by
  cases t with
  | nil =>
    have hFits : cells [] ≤ width := Nat.zero_le width
    rw [wrap_of_cells_le (List.take_nil ..) hFits, cutShort, if_pos hFits]
  | cons c t =>
    have hSplit : (c :: t).splitBy sameWord = [c :: t] := by
      apply List.splitBy_of_isChain (List.cons_ne_nil c t)
      rw [List.isChain_iff_getElem]
      intro i hi
      rw [sameWord, h _ (List.getElem_mem _), Bool.not_false, Bool.true_or]
    have hWords : spacedWords (c :: t) = [c :: t] := by
      rw [spacedWords, hSplit]
    have hLay : layWords width [] 0 [c :: t] = [c :: t] := by
      rw [layWords]
      split <;> simp [layWords]
    have hStrip : Text.stripEnd (c :: t) = c :: t :=
      Text.stripEnd_eq_self fun d hd => h d (List.mem_of_getLast? hd)
    rw [wrap, hWords, hLay, List.map_singleton, trimBeyond_of_stripEnd hStrip]

end Console

end Tabletop
