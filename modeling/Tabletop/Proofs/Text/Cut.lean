import Tabletop.Proofs.Text.Layout

/-!
# Cutting a text into its lines

There is one way to cut a text into lines, each with the line break that ends it: no line holds a
line break, a carriage return and the line feed behind it are one line break, and only the last
line may go without, if it is not empty (`Text.CutInto`). The lines of a text are the lines of that
cut (`cutInto_iff`), so that the text can be had back from its lines and their line breaks.

They are also the pieces of the text between its line breaks, less the last piece if it is empty
(`lines_eq_dropEmptyLast`).
-/

namespace Tabletop

namespace Text

/-- The text is the lines one after the other, each with the line break that ends it. -/
inductive CutInto : Text → List Text → Prop
  | nil : CutInto [] []
  /-- The last line, without a line break. -/
  | last {line : Text} (hLine : Unbroken line) (hSome : line ≠ []) : CutInto line [line]
  /-- A line and its line break. A carriage return is all of it only if no line feed comes next. -/
  | next (line ending : Text) {rest : Text} {others : List Text} (hLine : Unbroken line)
      (hEnding : ending ∈ breaks) (hWhole : ending = ['\r'] → rest.head? ≠ some '\n')
      (hRest : CutInto rest others) :
      CutInto (line ++ (ending ++ rest)) (line :: others)

theorem unbroken_nil : Unbroken [] := ⟨List.not_mem_nil, List.not_mem_nil⟩

/-! ## The lines are a cut -/

/-- A character in front of a text belongs to the first line of its cut. -/
theorem CutInto.joinFirst {t : Text} {ls : List Text} (h : CutInto t ls) {c : Char}
    (hReturn : c ≠ '\r') (hFeed : c ≠ '\n') : CutInto (c :: t) (joinFirst c ls) := by
  have hCons {line : Text} (hLine : Unbroken line) : Unbroken (c :: line) :=
    unbroken_cons.mpr ⟨⟨hReturn, hFeed⟩, hLine⟩
  cases h with
  | nil => exact .last (hCons unbroken_nil) (List.cons_ne_nil c [])
  | last hLine hSome => exact .last (hCons hLine) (List.cons_ne_nil c t)
  | next line ending hLine hEnding hWhole hRest =>
    exact .next (c :: line) ending (hCons hLine) hEnding hWhole hRest

theorem cutInto_lines (t : Text) : CutInto t (lines t) := by
  fun_induction lines t with
  | case1 => exact .nil
  | case2 rest ih =>
    exact .next [] ['\r', '\n'] unbroken_nil (by decide) (fun h => by cases h) ih
  | case3 rest hNext ih =>
    refine .next [] ['\r'] unbroken_nil (by decide) (fun _ hHead => ?_) ih
    obtain ⟨t, rfl⟩ := List.head?_eq_some_iff.mp hHead
    exact hNext t rfl
  | case4 rest ih =>
    exact .next [] ['\n'] unbroken_nil (by decide) (fun h => by cases h) ih
  | case5 c rest _ hReturn hFeed ih => exact ih.joinFirst hReturn hFeed

/-! ## No other cut -/

/-- A line break that is not cut short ends an empty line. -/
theorem lines_break {ending rest : Text} (hEnding : ending ∈ breaks)
    (hWhole : ending = ['\r'] → rest.head? ≠ some '\n') :
    lines (ending ++ rest) = [] :: lines rest := by
  simp only [breaks, List.mem_cons, List.not_mem_nil, or_false] at hEnding
  rcases hEnding with rfl | rfl | rfl
  · exact lines_feed rest
  · rw [List.cons_append, List.cons_append, List.nil_append, lines]
  · refine lines_return fun t hRest => hWhole rfl ?_
    have hFeed : rest = '\n' :: t := hRest
    rw [hFeed, List.head?_cons]

theorem CutInto.lines_eq {t : Text} {ls : List Text} (h : CutInto t ls) : lines t = ls := by
  induction h with
  | nil => rfl
  | last hLine hSome => exact lines_of_unbroken hLine hSome
  | next line ending hLine hEnding hWhole _ ih =>
    rw [lines_append_of_unbroken hLine (lines_break hEnding hWhole), ih]

theorem cutInto_iff {t : Text} {ls : List Text} : CutInto t ls ↔ ls = lines t := by
  constructor
  · intro h
    exact h.lines_eq.symm
  · rintro rfl
    exact cutInto_lines t

theorem CutInto.unbroken {t : Text} {ls : List Text} (h : CutInto t ls) :
    ∀ line ∈ ls, Unbroken line := by
  induction h with
  | nil => exact fun line hLine => absurd hLine List.not_mem_nil
  | last hLine _ => exact List.forall_mem_singleton.mpr hLine
  | next line ending hLine _ _ _ ih => exact List.forall_mem_cons.mpr ⟨hLine, ih⟩

/-! ## A line break at the very end -/

/-- The text ends with a character that ends no line. -/
def EndsOpen (t : Text) : Prop := ∃ c, t.getLast? = some c ∧ c ≠ '\r' ∧ c ≠ '\n'

theorem not_endsOpen_of_mem_breaks (t : Text) {ending : Text} (hEnding : ending ∈ breaks) :
    ¬ EndsOpen (t ++ ending) := by
  rintro ⟨c, hLast, hReturn, hFeed⟩
  simp only [breaks, List.mem_cons, List.not_mem_nil, or_false] at hEnding
  rcases hEnding with rfl | rfl | rfl <;> simp at hLast
  · exact hFeed hLast.symm
  · exact hFeed hLast.symm
  · exact hReturn hLast.symm

/-- A line break behind the last line ends that line and starts no other. -/
theorem CutInto.append_break {t : Text} {ls : List Text} (h : CutInto t ls) (hOpen : EndsOpen t)
    {ending : Text} (hEnding : ending ∈ breaks) : CutInto (t ++ ending) ls := by
  induction h with
  | nil =>
    obtain ⟨c, hLast, -⟩ := hOpen
    cases hLast
  | @last line hLine _ =>
    have hEnd := CutInto.next line ending hLine hEnding (fun _ h => by cases h) .nil
    rwa [List.append_nil] at hEnd
  | @next line between rest others hLine hBetween hWhole hRest ih =>
    have hSome : rest ≠ [] := by
      rintro rfl
      rw [List.append_nil] at hOpen
      exact not_endsOpen_of_mem_breaks line hBetween hOpen
    have hRestOpen : EndsOpen rest := by
      obtain ⟨c, hLast, hc⟩ := hOpen
      rw [← List.append_assoc, List.getLast?_append_of_ne_nil _ hSome] at hLast
      exact ⟨c, hLast, hc⟩
    have hHead : (rest ++ ending).head? = rest.head? := List.head?_append_of_ne_nil _ hSome
    rw [List.append_assoc, List.append_assoc]
    exact .next line between hLine hBetween (fun h => hHead ▸ hWhole h) (ih hRestOpen)

/-! ## The pieces between line breaks -/

/-- The pieces, less the last one if it is empty. -/
def dropEmptyLast (pieces : List Text) : List Text :=
  if pieces.getLast? = some [] then pieces.dropLast else pieces

theorem dropEmptyLast_cons (piece : Text) {pieces : List Text} (h : pieces ≠ []) :
    dropEmptyLast (piece :: pieces) = piece :: dropEmptyLast pieces := by
  have hLast : (piece :: pieces).getLast? = pieces.getLast? :=
    List.getLast?_append_of_ne_nil [piece] h
  unfold dropEmptyLast
  rw [hLast, List.dropLast_cons_of_ne_nil h]
  split <;> rfl

/-- A character in front of the first piece keeps it from being dropped. -/
theorem dropEmptyLast_modifyHead (c : Char) {pieces : List Text} (h : pieces ≠ []) :
    dropEmptyLast (pieces.modifyHead (c :: ·)) = joinFirst c (dropEmptyLast pieces) := by
  cases pieces with
  | nil => exact absurd rfl h
  | cons first others =>
    rw [List.modifyHead_cons]
    cases others with
    | nil => cases first <;> rfl
    | cons next others =>
      rw [dropEmptyLast_cons _ (List.cons_ne_nil next others),
        dropEmptyLast_cons _ (List.cons_ne_nil next others), joinFirst]

theorem return_notMem_lineFeeds (t : Text) : '\r' ∉ lineFeeds t := by
  fun_induction lineFeeds t with
  | case1 => exact List.not_mem_nil
  | case2 rest ih => simpa using ih
  | case3 rest _ ih => simpa using ih
  | case4 c rest _ hReturn ih => simpa [Ne.symm hReturn] using ih

/-- Without carriage returns, lines end at line feeds alone. -/
theorem lines_of_return_notMem {t : Text} (h : '\r' ∉ t) :
    lines t = dropEmptyLast (t.splitOn '\n') := by
  induction t with
  | nil => rfl
  | cons c t ih =>
    simp only [List.mem_cons, not_or] at h
    rw [List.splitOn_cons_eq_if_modifyHead]
    by_cases hFeed : c = '\n'
    · subst hFeed
      rw [lines_feed, ih h.2, if_pos (beq_self_eq_true _),
        dropEmptyLast_cons [] (List.splitOn_ne_nil '\n' t)]
    · have hNot : ¬ (c == '\n') = true := by simpa using hFeed
      rw [lines_cons (Ne.symm h.1) hFeed, ih h.2, if_neg hNot,
        dropEmptyLast_modifyHead c (List.splitOn_ne_nil '\n' t)]

/-- The lines are the pieces between the line breaks, less an empty last one. -/
theorem lines_eq_dropEmptyLast (t : Text) :
    lines t = dropEmptyLast ((lineFeeds t).splitOn '\n') := by
  rw [← lines_lineFeeds, lines_of_return_notMem (return_notMem_lineFeeds t)]

/-! ## The lines of a text -/

/-- The lines of a text are those of its only cut. No line break stands in a line, and only the
empty text has no lines. They are the pieces between the line breaks, less the last one if it is
empty, and a line break at the very end adds no line. -/
theorem lines_are_only_cut (t : Text) :
    (∀ ls, CutInto t ls ↔ ls = lines t) ∧ (∀ line ∈ lines t, '\r' ∉ line ∧ '\n' ∉ line) ∧
      (lines t = [] ↔ t = []) ∧ lines t = dropEmptyLast ((lineFeeds t).splitOn '\n') ∧
      ∀ ending ∈ breaks, EndsOpen t → lines (t ++ ending) = lines t := by
  refine ⟨fun ls => cutInto_iff, (cutInto_lines t).unbroken, ?_, lines_eq_dropEmptyLast t, ?_⟩
  · constructor
    · intro hNone
      by_contra hSome
      exact lines_ne_nil hSome hNone
    · rintro rfl
      rfl
  · intro ending hEnding hOpen
    exact ((cutInto_lines t).append_break hOpen hEnding).lines_eq

/-- Two line breaks of each kind, one after the other, and characters that look like line breaks and
are none. -/
theorem lines_are_only_cut_at_mixed_breaks :
    lines "\n\ra\r\n\r\rb\u2028\x0cc".toList =
        [[], [], "a".toList, [], [], "b\u2028\x0cc".toList] ∧
      lines ("\n\ra\r\n\r\rb\u2028\x0cc".toList ++ ['\r', '\n']) =
        lines "\n\ra\r\n\r\rb\u2028\x0cc".toList := by
  obtain ⟨hCut, -, -, -, hEnd⟩ := lines_are_only_cut "\n\ra\r\n\r\rb\u2028\x0cc".toList
  refine ⟨((hCut _).mp ?_).symm, hEnd ['\r', '\n'] (by decide) ⟨'c', by decide⟩⟩
  have hLast : CutInto "b\u2028\x0cc".toList ["b\u2028\x0cc".toList] :=
    .last (by decide) (by decide)
  have hReturn := hLast.next [] ['\r'] (by decide) (by decide) (by decide)
  have hReturns := hReturn.next [] ['\r'] (by decide) (by decide) (by decide)
  have hBoth := hReturns.next ['a'] ['\r', '\n'] (by decide) (by decide) (by decide)
  have hFirst := hBoth.next [] ['\r'] (by decide) (by decide) (by decide)
  exact hFirst.next [] ['\n'] (by decide) (by decide) (by decide)

end Text

end Tabletop
