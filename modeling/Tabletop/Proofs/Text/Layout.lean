import Tabletop.Proofs.Text.Letters
import Tabletop.Proofs.Text.Lines
import Tabletop.Proofs.Text.Strip

/-!
# How lines are laid out

The layout of lines is what can differ between two ways to write them: the case of their letters and
the blanks at their ends (`Text.Relaid`), and the line breaks that end them (`Text.Writes`).

The lines of a text are those that were written, if no line break stands in one of them, up to empty
lines (`filter_lines_of_writes`). An empty line can get lost: if a line ends with a carriage return
and the next one is empty and ends with a line feed, then the two are a single line break. An empty
line that is written last and without a line break is none, too.
-/

namespace Tabletop

namespace Text

/-- Blanks with no line break among them. -/
def IsMargin (t : Text) : Prop := AllBlank t ∧ Unbroken t

/-- The two lines are the same but for the case of letters and the blanks at their ends. -/
inductive Relaid : Text → Text → Prop
  | intro {left middle right left' middle' right' : Text} (hMiddle : CaseVariant middle middle')
      (hLeft : IsMargin left) (hRight : IsMargin right) (hLeft' : IsMargin left')
      (hRight' : IsMargin right') : Relaid (left ++ middle ++ right) (left' ++ middle' ++ right')

/-- What ends a line. -/
def breaks : List Text := [['\n'], ['\r', '\n'], ['\r']]

/-- The text is the lines one after the other, each ended by any of the line breaks. The last line
may go without. -/
inductive Writes : List Text → Text → Prop
  | nil : Writes [] []
  | last (line : Text) : Writes [line] line
  | cons (line : Text) {ending : Text} (hEnding : ending ∈ breaks) {lines : List Text} {text : Text}
      (hOthers : Writes lines text) : Writes (line :: lines) (line ++ (ending ++ text))

/-! ## Blanks and upper case -/

theorem isBlank_toUpper (c : Char) : isBlank c.toUpper = isBlank c := by
  have hc := toNat_toUpper c
  rw [Bool.eq_iff_iff]
  simp only [isBlank, blankRanges, Ranges.holds_iff, List.mem_cons, List.not_mem_nil, or_false,
    exists_eq_or_imp, exists_eq_left, hc, Char.reduceToNat]
  split <;> omega

theorem stripStart_upper (t : Text) : stripStart (upper t) = upper (stripStart t) := by
  have hBlank : isBlank ∘ Char.toUpper = isBlank := funext isBlank_toUpper
  rw [stripStart, upper, List.dropWhile_map, hBlank]
  rfl

theorem strip_upper (t : Text) : strip (upper t) = upper (strip t) := by
  have hReverse (u : Text) : (upper u).reverse = upper u.reverse := List.map_reverse.symm
  rw [strip, stripEnd_eq_reverse, stripStart_upper, hReverse, stripStart_upper, hReverse]
  rfl

/-- A line that is laid out anew is stripped to the same letters. -/
theorem Relaid.strip {line line' : Text} (h : Relaid line line') :
    CaseVariant line.strip line'.strip := by
  cases h with
  | intro hMiddle hLeft hRight hLeft' hRight' =>
    rw [strip_append_append hLeft.1 hRight.1, strip_append_append hLeft'.1 hRight'.1,
      caseVariant_iff, ← strip_upper, ← strip_upper, caseVariant_iff.mp hMiddle]

/-! ## Line breaks within a line -/

theorem unbroken_append {s t : Text} : Unbroken (s ++ t) ↔ Unbroken s ∧ Unbroken t := by
  simp only [Unbroken, List.mem_append, not_or]
  exact and_and_and_comm

theorem unbroken_upper {t : Text} : Unbroken (upper t) ↔ Unbroken t := by
  have hMem {d : Char} (hd : d.toNat < 'A'.toNat) : d ∈ upper t ↔ d ∈ t := by
    rw [upper, List.mem_map]
    simp only [toUpper_eq_iff hd, exists_eq_right]
  rw [Unbroken, Unbroken, hMem (by decide), hMem (by decide)]

/-- A line stays one line when it is laid out anew. -/
theorem Relaid.unbroken {line line' : Text} (h : Relaid line line') (hLine : Unbroken line) :
    Unbroken line' := by
  cases h with
  | @intro _ middle _ _ middle' _ hMiddle _ _ hLeft' hRight' =>
    have hOld : Unbroken middle := (unbroken_append.mp (unbroken_append.mp hLine).1).2
    have hNew : Unbroken middle' := by
      rw [← unbroken_upper, ← caseVariant_iff.mp hMiddle]
      exact unbroken_upper.mpr hOld
    exact unbroken_append.mpr ⟨unbroken_append.mpr ⟨hLeft'.2, hNew⟩, hRight'.2⟩

/-- A line without line breaks has margins around its stripped part. -/
theorem exists_margins_strip {line : Text} (h : Unbroken line) :
    ∃ left right, IsMargin left ∧ IsMargin right ∧ line = left ++ line.strip ++ right := by
  obtain ⟨left, right, hLeft, hRight, hLine⟩ := exists_blanks_strip line
  rw [hLine, unbroken_append, unbroken_append] at h
  exact ⟨left, right, ⟨hLeft, h.1.1⟩, ⟨hRight, h.2⟩, hLine⟩

/-- Of two lines without line breaks, one is the other laid out anew exactly if they are stripped to
the same letters. -/
theorem relaid_iff {line line' : Text} (hLine : Unbroken line) (hLine' : Unbroken line') :
    Relaid line line' ↔ CaseVariant line.strip line'.strip := by
  refine ⟨Relaid.strip, fun hStrip => ?_⟩
  obtain ⟨left, right, hLeft, hRight, hWhole⟩ := exists_margins_strip hLine
  obtain ⟨left', right', hLeft', hRight', hWhole'⟩ := exists_margins_strip hLine'
  rw [hWhole, hWhole']
  exact .intro hStrip hLeft hRight hLeft' hRight'

theorem unbroken_of_forall₂_relaid {lines lines' : List Text} (h : List.Forall₂ Relaid lines lines')
    (hLines : ∀ line ∈ lines, Unbroken line) : ∀ line' ∈ lines', Unbroken line' := by
  induction h with
  | nil => exact hLines
  | cons hRelaid _ ih =>
    rw [List.forall_mem_cons] at hLines ⊢
    exact ⟨hRelaid.unbroken hLines.1, ih hLines.2⟩

/-! ## Lines and what was written -/

/-- A line break makes a line end. What follows may lose an empty line to it. -/
theorem exists_lines_append_of_mem_breaks {ending : Text} (hEnding : ending ∈ breaks)
    (rest : Text) :
    ∃ others, lines (ending ++ rest) = [] :: others ∧
      others.filter (· ≠ []) = (lines rest).filter (· ≠ []) := by
  simp only [breaks, List.mem_cons, List.not_mem_nil, or_false] at hEnding
  rcases hEnding with rfl | rfl | rfl
  · exact ⟨lines rest, lines_feed rest, rfl⟩
  · exact ⟨lines rest, by rw [List.cons_append, List.cons_append, List.nil_append, lines], rfl⟩
  · by_cases hRest : ∃ t, rest = '\n' :: t
    · obtain ⟨t, rfl⟩ := hRest
      refine ⟨lines t, by rw [List.cons_append, List.nil_append, lines], ?_⟩
      rw [lines_feed]
      rfl
    · exact ⟨lines rest, lines_return (not_exists.mp hRest), rfl⟩

/-- The lines of a text are the lines that it was written from, empty lines left out. -/
theorem filter_lines_of_writes {written : List Text} {text : Text} (h : Writes written text)
    (hUnbroken : ∀ line ∈ written, Unbroken line) :
    (lines text).filter (· ≠ []) = written.filter (· ≠ []) := by
  induction h with
  | nil => rfl
  | last line =>
    by_cases hSome : line = []
    · rw [hSome]
      rfl
    · rw [lines_of_unbroken (hUnbroken line List.mem_cons_self) hSome]
  | @cons line ending hEnding written text _ ih =>
    obtain ⟨others, hLines, hOthers⟩ := exists_lines_append_of_mem_breaks hEnding text
    have hRest := ih fun other hOther => hUnbroken other (List.mem_cons_of_mem line hOther)
    rw [lines_append_of_unbroken (hUnbroken line List.mem_cons_self) hLines, List.filter_cons,
      List.filter_cons, hOthers, hRest]

end Text

end Tabletop
