import Tabletop.Command.Reader
import Tabletop.Proofs.Text.Letters
import Tabletop.Proofs.Text.Numeral
import Tabletop.Proofs.Text.Split
import Tabletop.Proofs.Text.Strip

/-!
# The grammar of command lines

`Stands t command` says that a line which reads `t` without the blanks at its ends stands for
`command`: a word in whatever case, or a placement, whose first word ends at a space or a tab and
whose three fields stand between exactly two commas, each with any blanks around it.

The reader accepts exactly this grammar (`line_read_iff_stands`). The proof takes the reader
apart: words and names of headings (`ofWord?_eq_some_iff`, `ofName?_eq_some_iff`), the three fields
(`ofFields?_eq_some_iff`), whose outer blanks may be stripped before the line is cut at its commas
(`exists_fields_strip_iff`), and the placement around them (`ofPlacement?_eq_some_iff`).
-/

namespace Tabletop

namespace Command

open Text

/-- The fields of a placement at a pose. -/
def FieldsStand (x y heading : Text) (pose : Pose) : Prop :=
  (∃ t, StripsTo x t ∧ Numeral.Denotes t pose.cell.x) ∧
    (∃ t, StripsTo y t ∧ Numeral.Denotes t pose.cell.y) ∧
      ∃ t, StripsTo heading t ∧ CaseVariant pose.heading.name t

/-- What a command looks like on a line without the blanks at its ends. -/
def Stands (t : Text) : Command → Prop
  | place pose => ∃ word separator x y heading,
      t = word ++ separator :: (x ++ ',' :: (y ++ ',' :: heading)) ∧
        CaseVariant "PLACE".toList word ∧ (separator = ' ' ∨ separator = '\t') ∧
          (',' ∉ x ∧ ',' ∉ y ∧ ',' ∉ heading) ∧ FieldsStand x y heading pose
  | move => CaseVariant "MOVE".toList t
  | left => CaseVariant "LEFT".toList t
  | right => CaseVariant "RIGHT".toList t
  | report => CaseVariant "REPORT".toList t

/-! ## Words -/

theorem ofName?_eq_some_iff {t : Text} {heading : Heading} :
    Heading.ofName? t = some heading ↔ CaseVariant heading.name t := by
  unfold Heading.ofName?
  rw [find?_upper_eq_some_iff (by decide) (by decide)]
  exact and_iff_right heading.mem_all

theorem ofWord?_eq_some_iff {t : Text} {command : Command} :
    ofWord? t = some command ↔ command ∈ single ∧ CaseVariant command.label t := by
  unfold ofWord?
  exact find?_upper_eq_some_iff (by decide) (by decide)

/-! ## Fields -/

theorem fieldsStand_iff {x y heading : Text} {pose : Pose} :
    FieldsStand x y heading pose ↔
      Numeral.Denotes x.strip pose.cell.x ∧ Numeral.Denotes y.strip pose.cell.y ∧
        CaseVariant pose.heading.name heading.strip := by
  unfold FieldsStand
  rw [exists_stripsTo_iff, exists_stripsTo_iff, exists_stripsTo_iff]

theorem ofFields?_eq_some_iff {fields : List Text} {command : Command} :
    ofFields? fields = some command ↔
      ∃ x y heading pose, fields = [x, y, heading] ∧ command = place pose ∧
        FieldsStand x y heading pose := by
  simp only [fieldsStand_iff]
  constructor
  · intro h
    unfold ofFields? at h
    split at h
    · rename_i x y heading
      obtain ⟨n, hx, h⟩ := Option.bind_eq_some_iff.mp h
      obtain ⟨m, hy, h⟩ := Option.bind_eq_some_iff.mp h
      obtain ⟨direction, hHeading, h⟩ := Option.bind_eq_some_iff.mp h
      cases h
      exact ⟨x, y, heading, ⟨⟨n, m⟩, direction⟩, rfl, rfl, Numeral.read?_eq_some_iff.mp hx,
        Numeral.read?_eq_some_iff.mp hy, ofName?_eq_some_iff.mp hHeading⟩
    · cases h
  · rintro ⟨x, y, heading, pose, rfl, rfl, hx, hy, hHeading⟩
    simp [ofFields?, Numeral.read?_eq_some_iff.mpr hx, Numeral.read?_eq_some_iff.mpr hy,
      ofName?_eq_some_iff.mpr hHeading]

theorem fieldsStand_append {left right : Text} (hLeft : AllBlank left) (hRight : AllBlank right)
    {x y heading : Text} {pose : Pose} :
    FieldsStand (left ++ x) y (heading ++ right) pose ↔ FieldsStand x y heading pose := by
  have hx := strip_append_append hLeft allBlank_nil x
  have hHeading := strip_append_append allBlank_nil hRight heading
  rw [List.append_nil] at hx
  rw [List.nil_append] at hHeading
  rw [fieldsStand_iff, fieldsStand_iff, hx, hHeading]

theorem comma_not_mem {t : Text} (ht : AllBlank t) : ',' ∉ t :=
  fun h => absurd (ht ',' h) (by decide)

/-- The outer blanks of three fields may be stripped before the fields are told apart. -/
theorem exists_fields_strip_iff {t : Text} {pose : Pose} :
    (∃ x y heading, (strip t).splitOn ',' = [x, y, heading] ∧ FieldsStand x y heading pose) ↔
      ∃ x y heading, t = x ++ ',' :: (y ++ ',' :: heading) ∧
        (',' ∉ x ∧ ',' ∉ y ∧ ',' ∉ heading) ∧ FieldsStand x y heading pose := by
  simp only [splitOn_eq_three_iff]
  constructor
  · rintro ⟨x, y, heading, ⟨hStrip, hx, hy, hHeading⟩, hFields⟩
    obtain ⟨left, right, hLeft, hRight, ht⟩ := exists_blanks_strip t
    refine ⟨left ++ x, y, heading ++ right, by rw [ht, hStrip]; simp, ⟨?_, hy, ?_⟩,
      (fieldsStand_append hLeft hRight).mpr hFields⟩
    · simp [hx, comma_not_mem hLeft]
    · simp [hHeading, comma_not_mem hRight]
  · rintro ⟨x, y, heading, rfl, ⟨hx, hy, hHeading⟩, hFields⟩
    obtain ⟨left, hLeft, hStart⟩ := exists_blanks_stripStart x
    obtain ⟨right, hRight, hEnd⟩ := exists_blanks_stripEnd heading
    refine ⟨stripStart x, y, stripEnd heading, ⟨?_, ?_, hy, ?_⟩, ?_⟩
    · unfold strip
      rw [stripStart_append_cons (by decide), ← List.cons_append, ← List.append_assoc,
        stripEnd_append_cons (by decide)]
      simp
    · exact fun h => hx (by rw [hStart]; exact List.mem_append_right left h)
    · exact fun h => hHeading (by rw [hEnd]; exact List.mem_append_left right h)
    · rw [hStart, hEnd] at hFields
      exact (fieldsStand_append hLeft hRight).mp hFields

/-! ## Placements -/

theorem ofPlacement?_eq_some_iff {t : Text} {command : Command} :
    ofPlacement? t = some command ↔ ∃ pose, command = place pose ∧ Stands t (place pose) := by
  have hUpper : upper placeWord = placeWord := by decide
  constructor
  · intro h
    unfold ofPlacement? at h
    split at h
    · rename_i word separator rest hSplit
      split at h
      · rename_i hWord
        have ht : t = word ++ separator :: rest := by
          rw [List.splitAt_eq, Prod.mk.injEq] at hSplit
          rw [← hSplit.1, ← hSplit.2, List.take_append_drop]
        obtain ⟨x, y, heading, pose, hFields, rfl, hStand⟩ := ofFields?_eq_some_iff.mp h
        obtain ⟨x, y, heading, rfl, hComma, hStand⟩ :=
          exists_fields_strip_iff.mp ⟨x, y, heading, hFields, hStand⟩
        exact ⟨pose, rfl, word, separator, x, y, heading, ht,
          caseVariant_iff.mpr (hUpper.trans hWord.1.symm), hWord.2, hComma, hStand⟩
      · cases h
    · cases h
  · rintro ⟨pose, rfl, word, separator, x, y, heading, rfl, hWord, hSeparator, hComma, hStand⟩
    obtain ⟨x', y', heading', hFields, hStand⟩ :=
      exists_fields_strip_iff.mpr ⟨x, y, heading, rfl, hComma, hStand⟩
    have hWord := (caseVariant_iff.mp hWord).symm.trans hUpper
    have hLength : word.length = placeWord.length := by
      rw [← hWord]
      simp [upper]
    unfold ofPlacement?
    rw [List.splitAt_eq, ← hLength, List.take_left, List.drop_left]
    simp only [hWord, hSeparator, and_self, if_true]
    exact ofFields?_eq_some_iff.mpr ⟨x', y', heading', pose, hFields, rfl, hStand⟩

/-! ## Lines -/

/-- The first letter of a placement is that of no other word. -/
theorem ofWord?_eq_none_of_placement {t : Text} {pose : Pose} (h : Stands t (place pose)) :
    ofWord? t = none := by
  obtain ⟨word, separator, x, y, heading, rfl, hWord, -⟩ := h
  cases hResult : ofWord? (word ++ separator :: (x ++ ',' :: (y ++ ',' :: heading))) with
  | none => rfl
  | some command =>
    exfalso
    obtain ⟨hSingle, hCase⟩ := ofWord?_eq_some_iff.mp hResult
    have hUpper := caseVariant_iff.mp hCase
    have hHead : upper "PLACE".toList = upper word := caseVariant_iff.mp hWord
    have hWhole : upper (word ++ separator :: (x ++ ',' :: (y ++ ',' :: heading))) =
        upper "PLACE".toList ++ upper (separator :: (x ++ ',' :: (y ++ ',' :: heading))) := by
      rw [hHead]
      simp [upper]
    rw [hWhole] at hUpper
    have hNot : ∀ c ∈ single, (upper c.label).head? ≠ (upper "PLACE".toList).head? := by decide
    exact hNot command hSingle (by rw [hUpper]; rfl)

theorem ofLine?_eq_some_iff {line : Text} {command : Command} :
    ofLine? line = some command ↔ Stands line.strip command := by
  unfold ofLine?
  rw [Option.or_eq_some_iff, ofWord?_eq_some_iff, ofPlacement?_eq_some_iff]
  constructor
  · rintro (⟨hSingle, hCase⟩ | ⟨-, pose, rfl, hStands⟩)
    · simp only [single, List.mem_cons, List.not_mem_nil, or_false] at hSingle
      rcases hSingle with rfl | rfl | rfl | rfl <;> exact hCase
    · exact hStands
  · intro h
    cases command with
    | place pose => exact Or.inr ⟨ofWord?_eq_none_of_placement h, pose, rfl, h⟩
    | move => exact Or.inl ⟨by decide, h⟩
    | left => exact Or.inl ⟨by decide, h⟩
    | right => exact Or.inl ⟨by decide, h⟩
    | report => exact Or.inl ⟨by decide, h⟩

theorem exists_head_of_caseVariant {letter : Char} {word t : Text}
    (h : CaseVariant (letter :: word) t) :
    ∃ c rest, t = c :: rest ∧ c.toUpper = letter.toUpper := by
  cases h with
  | cons hLetter _ => exact ⟨_, _, rfl, (sameLetter_iff.mp hLetter).symm⟩

theorem exists_head_of_stands {t : Text} {command : Command} (h : Stands t command) :
    ∃ c rest, t = c :: rest ∧ c.toUpper ∈ ['P', 'M', 'L', 'R'] := by
  cases command with
  | place pose =>
    obtain ⟨word, separator, x, y, heading, rfl, hWord, -⟩ := h
    obtain ⟨c, rest, rfl, hUpper⟩ := exists_head_of_caseVariant hWord
    exact ⟨c, _, rfl, by rw [hUpper]; decide⟩
  | _ =>
    obtain ⟨c, rest, rfl, hUpper⟩ := exists_head_of_caseVariant h
    exact ⟨c, rest, rfl, by rw [hUpper]; decide⟩

/-- A line that starts with neither a blank nor the first letter of a word is no command. -/
theorem ofLine?_cons_eq_none {c : Char} (hBlank : isBlank c = false)
    (hLetter : c.toUpper ∉ ['P', 'M', 'L', 'R']) (t : Text) : ofLine? (c :: t) = none := by
  cases hRead : ofLine? (c :: t) with
  | none => rfl
  | some command =>
    have hStart : stripStart (c :: t) = c :: t := stripStart_append_cons hBlank [] t
    have hStrip : strip (c :: t) = c :: stripEnd t := by
      rw [strip, hStart]
      exact stripEnd_append_cons hBlank [] t
    obtain ⟨d, rest, hHead, hUpper⟩ := exists_head_of_stands (ofLine?_eq_some_iff.mp hRead)
    rw [hStrip] at hHead
    cases hHead
    exact absurd hUpper hLetter

/-- A line is read as a command exactly when the command stands on it between blanks. A line that
is missing, or on which no command stands, is read as none. -/
theorem line_read_iff_stands (line : Option Text) :
    (∀ command, line.bind ofLine? = some command ↔
      ∃ t u, line = some t ∧ StripsTo t u ∧ Stands u command) ∧
    (line.bind ofLine? = none ↔
      ¬ ∃ command t u, line = some t ∧ StripsTo t u ∧ Stands u command) := by
  have hSome : ∀ command, line.bind ofLine? = some command ↔
      ∃ t u, line = some t ∧ StripsTo t u ∧ Stands u command := by
    intro command
    rw [Option.bind_eq_some_iff]
    constructor
    · rintro ⟨t, rfl, h⟩
      exact ⟨t, t.strip, rfl, strip_eq_iff.mp rfl, ofLine?_eq_some_iff.mp h⟩
    · rintro ⟨t, u, rfl, hStrip, h⟩
      rw [← strip_eq_iff.mpr hStrip] at h
      exact ⟨t, rfl, ofLine?_eq_some_iff.mpr h⟩
  refine ⟨hSome, ?_⟩
  rw [Option.eq_none_iff_forall_ne_some, not_exists]
  exact forall_congr' fun command => not_congr (hSome command)

example : ofLine? " place\t+01 , -2,nOrTh ".toList = some (.place ⟨⟨1, -2⟩, .north⟩) := by decide

example : ofLine? "PLACE 1,2,NORTH,".toList = none := by decide

end Command

end Tabletop
