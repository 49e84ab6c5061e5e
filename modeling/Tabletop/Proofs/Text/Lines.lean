import Tabletop.Text.Lines

/-!
# Line breaks and lines

One equation for every way a text can go on tells its lines apart. From them it follows that the
lines of a text do not depend on how its line breaks are written: turning all of them into line
feeds first gives the same lines (`lines_lineFeeds`).

The lines of two texts together are those of the one and those of the other, if a line ends where
they meet (`lines_append`). A carriage return at the end of the first text ends a line there only
if the second text does not go on with a line feed, which would belong to the same line break.
-/

namespace Tabletop

namespace Text

theorem lines_feed (rest : Text) : lines ('\n' :: rest) = [] :: lines rest := by
  simp [lines]

/-- A carriage return with no line feed behind it. -/
theorem lines_return {rest : Text} (hRest : ∀ t, rest ≠ '\n' :: t) :
    lines ('\r' :: rest) = [] :: lines rest := by
  rw [lines]
  exact hRest

theorem lines_cons {c : Char} (hReturn : c ≠ '\r') (hFeed : c ≠ '\n') (rest : Text) :
    lines (c :: rest) = joinFirst c (lines rest) := by
  rw [lines]
  · rintro t rfl
    exact absurd rfl hReturn
  · exact hReturn
  · exact hFeed

theorem joinFirst_eq (c : Char) (lines : List Text) :
    joinFirst c lines = (c :: lines.headD []) :: lines.drop 1 := by
  cases lines <;> rfl

theorem lines_lineFeeds (t : Text) : lines (lineFeeds t) = lines t := by
  fun_induction lineFeeds t with
  | case1 => rfl
  | case2 rest ih => rw [lines_feed, ih, lines]
  | case3 rest hNext ih => rw [lines_feed, ih, lines_return hNext]
  | case4 c rest _ hReturn ih =>
    by_cases hFeed : c = '\n'
    · rw [hFeed, lines_feed, lines_feed, ih]
    · rw [lines_cons hReturn hFeed, lines_cons hReturn hFeed, ih]

/-! ## Texts without line breaks -/

/-- No line ends in the text. -/
def Unbroken (t : Text) : Prop := '\r' ∉ t ∧ '\n' ∉ t

instance (t : Text) : Decidable (Unbroken t) := inferInstanceAs (Decidable (_ ∧ _))

theorem unbroken_cons {c : Char} {t : Text} :
    Unbroken (c :: t) ↔ (c ≠ '\r' ∧ c ≠ '\n') ∧ Unbroken t := by
  simp only [Unbroken, List.mem_cons, not_or, ne_eq, eq_comm (b := c)]
  exact and_and_and_comm

/-- Text before the first line break belongs to the first line. -/
theorem lines_append_of_unbroken {line : Text} (hLine : Unbroken line) {rest : Text}
    {others : List Text} (hRest : lines rest = [] :: others) :
    lines (line ++ rest) = line :: others := by
  induction line with
  | nil => exact hRest
  | cons c line ih =>
    obtain ⟨⟨hReturn, hFeed⟩, hTail⟩ := unbroken_cons.mp hLine
    rw [List.cons_append, lines_cons hReturn hFeed, ih hTail, joinFirst]

/-- A text without line breaks is a line, unless it is empty. -/
theorem lines_of_unbroken {line : Text} (hLine : Unbroken line) (hSome : line ≠ []) :
    lines line = [line] := by
  induction line with
  | nil => exact absurd rfl hSome
  | cons c line ih =>
    obtain ⟨⟨hReturn, hFeed⟩, hTail⟩ := unbroken_cons.mp hLine
    rw [lines_cons hReturn hFeed]
    cases line with
    | nil => rfl
    | cons d rest => rw [ih hTail (List.cons_ne_nil d rest), joinFirst]

/-! ## Two texts together -/

/-- Neither a line nor a line break of the two texts together goes across the place where they
meet. -/
def ClosedBefore (first second : Text) : Prop :=
  first = [] ∨ first.getLast? = some '\n' ∨
    (first.getLast? = some '\r' ∧ second.head? ≠ some '\n')

instance (first second : Text) : Decidable (ClosedBefore first second) :=
  inferInstanceAs (Decidable (_ ∨ _))

theorem lines_ne_nil {t : Text} (h : t ≠ []) : lines t ≠ [] := by
  fun_cases lines t with
  | case1 => exact absurd rfl h
  | case2 rest => exact List.cons_ne_nil _ _
  | case3 rest => exact List.cons_ne_nil _ _
  | case4 rest => exact List.cons_ne_nil _ _
  | case5 c rest =>
    rw [joinFirst_eq]
    exact List.cons_ne_nil _ _

theorem joinFirst_append (c : Char) {lines : List Text} (h : lines ≠ []) (others : List Text) :
    joinFirst c (lines ++ others) = joinFirst c lines ++ others := by
  cases lines with
  | nil => exact absurd rfl h
  | cons line lines => rfl

theorem ClosedBefore.tail {c : Char} {first second : Text} (h : ClosedBefore (c :: first) second) :
    ClosedBefore first second := by
  cases first with
  | nil => exact Or.inl rfl
  | cons d rest =>
    rcases h with h | h
    · cases h
    · rw [List.getLast?_cons_cons] at h
      exact Or.inr h

/-- A text that is closed does not end within a line. -/
theorem ClosedBefore.ne_nil {c : Char} {first second : Text} (h : ClosedBefore (c :: first) second)
    (hReturn : c ≠ '\r') (hFeed : c ≠ '\n') : first ≠ [] := by
  rintro rfl
  rcases h with h | h | ⟨h, -⟩
  · cases h
  · exact hFeed (Option.some.inj h)
  · exact hReturn (Option.some.inj h)

/-- A carriage return that has no line feed behind it in a closed text has none in the whole. -/
theorem ClosedBefore.ne_feed {first second : Text} (h : ClosedBefore ('\r' :: first) second)
    (hNext : ∀ t, first ≠ '\n' :: t) : ∀ t, first ++ second ≠ '\n' :: t := by
  rintro t hWhole
  cases first with
  | nil =>
    rcases h with h | h | ⟨-, hHead⟩
    · cases h
    · cases h
    · rw [List.nil_append] at hWhole
      exact hHead (by rw [hWhole]; rfl)
  | cons d rest =>
    obtain ⟨rfl, -⟩ := List.cons.inj hWhole
    exact hNext rest rfl

/-- The lines of two texts together are those of the first and those of the second, if a line ends
where they meet. -/
theorem lines_append {first second : Text} (h : ClosedBefore first second) :
    lines (first ++ second) = lines first ++ lines second := by
  fun_induction lines first with
  | case1 => rfl
  | case2 rest ih =>
    rw [List.cons_append, List.cons_append, lines, ih h.tail.tail, List.cons_append]
  | case3 rest hNext ih =>
    rw [List.cons_append, lines_return (h.ne_feed hNext), ih h.tail, List.cons_append]
  | case4 rest ih => rw [List.cons_append, lines_feed, ih h.tail, List.cons_append]
  | case5 c rest _ hReturn hFeed ih =>
    -- only here does the line go on, so that the rest must have a line of its own
    have hRest : rest ≠ [] := h.ne_nil hReturn hFeed
    rw [List.cons_append, lines_cons hReturn hFeed, ih h.tail,
      joinFirst_append c (lines_ne_nil hRest)]

end Text

end Tabletop
