import Tabletop.Proofs.Command.Grammar
import Tabletop.Proofs.Text.Layout

/-!
# Reading without regard to case and blanks

Digits, signs, separators and commas are no letters, so that each part of the reader gives the same
for a text and for the text in upper case: cutting at commas, numerals, names and words. A line is
therefore read like any line that differs from it in the case of letters and in the blanks at its
ends (`ofLine?_relaid`). Since an empty line is no command, the commands on a text do not depend on
how its lines are laid out (`filterMap_ofLine?_lines`).
-/

namespace Tabletop

namespace Text

/-! ## Characters that are no letters -/

/-- A text that starts with no letter in upper case starts so as it is. -/
theorem exists_cons_of_upper {d : Char} (hd : d.toNat < 'A'.toNat) {t rest : Text}
    (h : upper t = d :: rest) : ∃ rest', t = d :: rest' := by
  obtain ⟨c, rest', rfl, hc, -⟩ := List.map_eq_cons_iff.mp h
  exact ⟨rest', congrArg (· :: rest') ((toUpper_eq_iff hd).mp hc)⟩

theorem splitOn_upper {separator : Char} (h : separator.toNat < 'A'.toNat) (t : Text) :
    (upper t).splitOn separator = (t.splitOn separator).map upper := by
  induction t with
  | nil => rfl
  | cons c t ih =>
    have hHead : (c.toUpper == separator) = (c == separator) := by
      rw [Bool.eq_iff_iff, beq_iff_eq, beq_iff_eq]
      exact toUpper_eq_iff h
    have hUpper : upper (c :: t) = c.toUpper :: upper t := rfl
    rw [hUpper, List.splitOn_cons_eq_if_modifyHead, List.splitOn_cons_eq_if_modifyHead, hHead, ih]
    split
    · rfl
    · cases t.splitOn separator <;> rfl

end Text

open Text

/-! ## Numerals -/

namespace Numeral

theorem upper_of_all_isDigit {t : Text} (h : t.all Char.isDigit = true) : upper t = t := by
  have hSame : ∀ c ∈ t, c.toUpper = id c := by
    intro c hc
    have hRange := Char.isDigit_iff_toNat.mp (List.all_eq_true.mp h c hc)
    exact (toUpper_eq_iff (Nat.lt_of_le_of_lt hRange.2 (by decide))).mpr rfl
  rw [upper, List.map_congr_left hSame, List.map_id]

theorem readDigits?_upper (t : Text) : readDigits? (upper t) = readDigits? t := by
  have hDigits : (upper t).all Char.isDigit = t.all Char.isDigit := by
    rw [upper, List.all_map]
    exact congrArg _ (funext isDigit_toUpper)
  cases hAll : t.all Char.isDigit with
  | false => simp [readDigits?, hDigits, hAll]
  | true => rw [upper_of_all_isDigit hAll]

theorem read?_upper (t : Text) : read? (upper t) = read? t := by
  have hCons (c : Char) (digits : Text) : upper (c :: digits) = c.toUpper :: upper digits := rfl
  fun_cases read? t with
  | case1 digits => rw [hCons, (toUpper_eq_iff (by decide)).mpr rfl, read?, readDigits?_upper]
  | case2 digits => rw [hCons, (toUpper_eq_iff (by decide)).mpr rfl, read?, readDigits?_upper]
  | case3 _ hPlus hMinus =>
    -- no other character becomes a sign
    rw [read?, readDigits?_upper]
    · intro digits h
      obtain ⟨digits', ht⟩ := exists_cons_of_upper (by decide) h
      exact hPlus digits' ht
    · intro digits h
      obtain ⟨digits', ht⟩ := exists_cons_of_upper (by decide) h
      exact hMinus digits' ht

end Numeral

/-! ## Names, words and fields -/

theorem Heading.ofName?_upper (t : Text) : ofName? (upper t) = ofName? t := by
  rw [ofName?, ofName?, upper_upper]

namespace Command

theorem ofWord?_upper (t : Text) : ofWord? (upper t) = ofWord? t := by
  rw [ofWord?, ofWord?, upper_upper]

theorem ofFields?_upper (fields : List Text) : ofFields? (fields.map upper) = ofFields? fields := by
  fun_cases ofFields? fields with
  | case1 x y heading =>
    simp only [List.map_cons, List.map_nil, ofFields?, strip_upper, Numeral.read?_upper,
      Heading.ofName?_upper]
  | case2 _ hFields =>
    rw [ofFields?]
    intro x y heading h
    obtain ⟨x', others, rfl, -, h⟩ := List.map_eq_cons_iff.mp h
    obtain ⟨y', others, rfl, -, h⟩ := List.map_eq_cons_iff.mp h
    obtain ⟨heading', others, rfl, -, h⟩ := List.map_eq_cons_iff.mp h
    obtain rfl := List.map_eq_nil_iff.mp h
    exact hFields x' y' heading' rfl

theorem ofPlacement?_upper (t : Text) : ofPlacement? (upper t) = ofPlacement? t := by
  have hDrop : (upper t).drop placeWord.length = upper (t.drop placeWord.length) :=
    List.map_drop.symm
  have hTake : (upper t).take placeWord.length = upper (t.take placeWord.length) :=
    List.map_take.symm
  unfold ofPlacement?
  rw [List.splitAt_eq, List.splitAt_eq, hDrop, hTake]
  cases t.drop placeWord.length with
  | nil => rfl
  | cons separator fields =>
    have hCons : upper (separator :: fields) = separator.toUpper :: upper fields := rfl
    have hSpace : separator.toUpper = ' ' ↔ separator = ' ' := toUpper_eq_iff (by decide)
    have hTab : separator.toUpper = '\t' ↔ separator = '\t' := toUpper_eq_iff (by decide)
    have hFields : (strip fields).upper.splitOn ',' = ((strip fields).splitOn ',').map upper :=
      splitOn_upper (by decide) (strip fields)
    simp only [hCons, upper_upper, hSpace, hTab, strip_upper, hFields, ofFields?_upper]

/-! ## Lines -/

theorem ofLine?_upper (line : Text) : ofLine? (upper line) = ofLine? line := by
  rw [ofLine?, strip_upper, ofWord?_upper, ofPlacement?_upper]
  rfl

theorem ofLine?_strip (line : Text) : ofLine? line.strip = ofLine? line := by
  rw [ofLine?, strip_of_trimmed (trimmed_strip line)]
  rfl

/-- Lines that are the same but for the case of letters and the blanks at their ends are read
alike. -/
theorem ofLine?_relaid {line line' : Text} (h : Relaid line line') :
    ofLine? line = ofLine? line' := by
  calc ofLine? line
    _ = ofLine? (upper line.strip) := by rw [ofLine?_upper, ofLine?_strip]
    _ = ofLine? (upper line'.strip) := by rw [caseVariant_iff.mp h.strip]
    _ = ofLine? line' := by rw [ofLine?_upper, ofLine?_strip]

/-! ## The commands on a text -/

theorem filterMap_ofLine?_filter (lines : List Text) :
    (lines.filter (· ≠ [])).filterMap ofLine? = lines.filterMap ofLine? := by
  have hEmpty : ofLine? [] = none := by decide
  induction lines with
  | nil => rfl
  | cons line lines ih =>
    by_cases hLine : line = []
    · rw [List.filter_cons_of_neg (by simpa using hLine), ih, hLine,
        List.filterMap_cons_none hEmpty]
    · rw [List.filter_cons_of_pos (by simpa using hLine), List.filterMap_cons, List.filterMap_cons,
        ih]

theorem filterMap_ofLine?_relaid {lines lines' : List Text}
    (h : List.Forall₂ Relaid lines lines') :
    lines.filterMap ofLine? = lines'.filterMap ofLine? := by
  induction h with
  | nil => rfl
  | cons hRelaid _ ih => rw [List.filterMap_cons, List.filterMap_cons, ofLine?_relaid hRelaid, ih]

/-- The commands on a text are those of the lines that it was written from, however the lines were
laid out. -/
theorem filterMap_ofLine?_lines {lines relaid : List Text} {text : Text}
    (hLines : ∀ line ∈ lines, Unbroken line) (hRelaid : List.Forall₂ Relaid lines relaid)
    (hText : Writes relaid text) :
    text.lines.filterMap ofLine? = lines.filterMap ofLine? := by
  have hUnbroken := unbroken_of_forall₂_relaid hRelaid hLines
  rw [← filterMap_ofLine?_filter, filter_lines_of_writes hText hUnbroken,
    filterMap_ofLine?_filter, filterMap_ofLine?_relaid hRelaid]

end Command

end Tabletop
