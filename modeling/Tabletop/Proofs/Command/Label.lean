import Tabletop.Proofs.Command.Grammar

/-!
# Labels are read as their commands

The label of a command is the canonical line for it: it stands for the command (`stands_label`), and
so is read as that command (`ofLine?_label`), as long as the coordinates of a placement fit into the
numerals that can be read. The coordinates of a command that was read always do (`fits_of_ofLine?`),
and the label of a line that is no command is no command either, so that the label of whatever a
line was read as is read as the same again (`ofLine?_label?_ofLine?`).
-/

namespace Tabletop

open Text

/-- The coordinates fit into the numerals that can be read. -/
def Cell.Fits (cell : Cell) : Prop := Numeral.Fits cell.x ∧ Numeral.Fits cell.y

namespace Command

/-- The coordinates of a placement fit into the numerals that can be read. -/
def Fits : Command → Prop
  | place pose => pose.cell.Fits
  | _ => True

/-! ## Fields without blanks and commas -/

/-- Neither a comma nor a blank stands in the text. -/
def IsField (t : Text) : Prop := ∀ c ∈ t, c ≠ ',' ∧ isBlank c = false

theorem isField_of_all {t : Text} (h : t.all (fun c => c != ',' && !isBlank c) = true) :
    IsField t := by
  intro c hc
  simpa using List.all_eq_true.mp h c hc

theorem IsField.comma_not_mem {t : Text} (h : IsField t) : ',' ∉ t :=
  fun hComma => (h ',' hComma).1 rfl

theorem IsField.trimmed {t : Text} (h : IsField t) : Trimmed t :=
  trimmed_of_not_blank fun c hc => (h c hc).2

theorem IsField.stripsTo {t : Text} (h : IsField t) : StripsTo t t :=
  strip_eq_iff.mp (strip_of_trimmed h.trimmed)

theorem isBlank_of_isDigit {c : Char} (h : c.isDigit = true) : isBlank c = false := by
  have hRange := Char.isDigit_iff_toNat.mp h
  simp only [Char.reduceToNat] at hRange
  simp [isBlank, Ranges.holds, blankRanges]
  omega

theorem isField_write (n : Int) : IsField (Numeral.write n) := by
  intro c hc
  rcases Numeral.mem_write hc with rfl | hDigit
  · decide
  · refine ⟨?_, isBlank_of_isDigit hDigit⟩
    rintro rfl
    exact absurd hDigit (by decide)

theorem isField_name (heading : Heading) : IsField heading.name := by
  apply isField_of_all
  cases heading <;> decide

/-! ## Labels -/

theorem stands_label {command : Command} (h : command.Fits) : Stands command.label command := by
  cases command with
  | place pose =>
    refine ⟨"PLACE".toList, ' ', Numeral.write pose.cell.x, Numeral.write pose.cell.y,
      pose.heading.name, rfl, caseVariant_iff.mpr rfl, Or.inl rfl, ?_, ?_⟩
    · exact ⟨(isField_write _).comma_not_mem, (isField_write _).comma_not_mem,
        (isField_name _).comma_not_mem⟩
    · exact ⟨⟨_, (isField_write _).stripsTo, Numeral.denotes_write h.1⟩,
        ⟨_, (isField_write _).stripsTo, Numeral.denotes_write h.2⟩,
        ⟨_, (isField_name _).stripsTo, caseVariant_iff.mpr rfl⟩⟩
  | move => exact caseVariant_iff.mpr rfl
  | left => exact caseVariant_iff.mpr rfl
  | right => exact caseVariant_iff.mpr rfl
  | report => exact caseVariant_iff.mpr rfl

theorem getLast?_fields (word x y : Text) {heading : Text} (h : heading ≠ []) :
    (word ++ (x ++ ',' :: (y ++ ',' :: heading))).getLast? = heading.getLast? := by
  rw [← List.getLast?_append_of_ne_nil (word ++ x ++ ',' :: (y ++ [','])) h]
  simp

theorem trimmed_label (command : Command) : Trimmed command.label := by
  cases command with
  | place pose =>
    -- A placement ends as its heading does.
    have hName : pose.heading.name ≠ [] := by cases pose.heading <;> decide
    have hEnd : (place pose).label.getLast? = pose.heading.name.getLast? :=
      getLast?_fields "PLACE ".toList (Numeral.write pose.cell.x) (Numeral.write pose.cell.y) hName
    refine ⟨fun c hc => ?_, fun c hc => ?_⟩
    · cases hc
      decide
    · rw [hEnd] at hc
      exact (isField_name pose.heading c (List.mem_of_mem_getLast? hc)).2
  | move => exact (isField_of_all (by decide)).trimmed
  | left => exact (isField_of_all (by decide)).trimmed
  | right => exact (isField_of_all (by decide)).trimmed
  | report => exact (isField_of_all (by decide)).trimmed

theorem ofLine?_label {command : Command} (h : command.Fits) :
    ofLine? command.label = some command := by
  rw [ofLine?_eq_some_iff, strip_of_trimmed (trimmed_label command)]
  exact stands_label h

/-- A placement is read from the report of its pose. -/
theorem ofLine?_report {pose : Pose} (h : pose.cell.Fits) :
    ofLine? ("PLACE ".toList ++ pose.report) = some (place pose) :=
  @ofLine?_label (place pose) h

theorem fits_of_ofLine? {line : Text} {command : Command} (h : ofLine? line = some command) :
    command.Fits := by
  cases command with
  | place pose =>
    obtain ⟨word, separator, x, y, heading, -, -, -, -, hFields⟩ := ofLine?_eq_some_iff.mp h
    obtain ⟨⟨_, -, hx⟩, ⟨_, -, hy⟩, -⟩ := hFields
    exact ⟨hx.fits, hy.fits⟩
  | move => trivial
  | left => trivial
  | right => trivial
  | report => trivial

/-- The label of what a line was read as is read as the same. -/
theorem ofLine?_label?_ofLine? (line : Text) : ofLine? (label? (ofLine? line)) = ofLine? line := by
  cases hRead : ofLine? line with
  | none => decide
  | some command => exact ofLine?_label (fits_of_ofLine? hRead)

end Command

end Tabletop
