import Tabletop.Options
import Tabletop.Proofs.Run.Replay

/-!
# Arguments for a run on a board

The sides of a board are given as loose numerals. Every numeral of a command is a loose numeral of
the same integer (`Numeral.readLoose?_of_denotes`), and so are the canonical numerals of the sides
that have no more digits than can be read. With these, a run on such a board can be asked for, of
any source whatever: behind the separator no source is taken for a switch (`read_runArguments`).
-/

namespace Tabletop

/-! ## Loose numerals -/

namespace Numeral

theorem digitValue?_of_range {c : Char} (h : '0'.toNat ≤ c.toNat ∧ c.toNat ≤ '9'.toNat) :
    Text.digitValue? c = some (digitValue c) := by
  simp only [Char.reduceToNat] at h
  have hFirst : (48 ≤ c.toNat && c.toNat < 48 + 10) = true := by
    rw [Bool.and_eq_true, decide_eq_true_iff, decide_eq_true_iff]
    omega
  have hFind : (Text.digitZeros.find? fun first => first ≤ c.toNat && c.toNat < first + 10) =
      some 48 := List.find?_cons_of_pos hFirst
  rw [Text.digitValue?, hFind]
  rfl

theorem looseDigits?_of_digits {digits : Text} (hSome : digits ≠ [])
    (hDigits : ∀ c ∈ digits, '0'.toNat ≤ c.toNat ∧ c.toNat ≤ '9'.toNat) :
    looseDigits? digits = some (digits.map digitValue) := by
  fun_induction looseDigits? digits with
  | case1 => exact absurd rfl hSome
  | case2 c =>
    rw [digitValue?_of_range (hDigits c List.mem_cons_self)]
    rfl
  | case3 c rest ih =>
    have hUnderscore := hDigits '_' (List.mem_cons_of_mem c List.mem_cons_self)
    exact absurd hUnderscore.2 (by decide)
  | case4 c rest hRest _ ih =>
    rw [List.forall_mem_cons] at hDigits
    rw [digitValue?_of_range hDigits.1, ih hRest hDigits.2]
    rfl

theorem readLooseDigits?_of_isDigits {digits : Text} {n : Nat} (h : IsDigits digits n) :
    readLooseDigits? digits = some n := by
  have hSome : digits ≠ [] := List.length_pos_iff.mp h.one_le
  have hLength : (digits.map digitValue).length ≤ digitLimit := by
    rw [List.length_map]
    exact h.le_limit
  have hValue : (digits.map digitValue).foldl (fun n d => 10 * n + d) 0 = n := by
    rw [h.value, ← ofDigitChars_eq_ofDigits, List.foldl_map]
    rfl
  rw [readLooseDigits?, looseDigits?_of_digits hSome h.digit]
  dsimp only
  rw [if_pos hLength, hValue]

/-- No blank stands in a numeral. -/
theorem Denotes.isMargin_eq_false {t : Text} {n : Int} (h : Denotes t n) :
    ∀ c ∈ t, isMargin c = false := by
  have hDigits {digits : Text} {n : Nat} (h : IsDigits digits n) :
      ∀ c ∈ digits, isMargin c = false := by
    intro c hc
    rw [isMargin, Command.isBlank_of_isDigit (Char.isDigit_iff_toNat.mpr (h.digit c hc))]
    rfl
  cases h with
  | plain h => exact hDigits h
  | plus h => exact List.forall_mem_cons.mpr ⟨by decide, hDigits h⟩
  | minus h => exact List.forall_mem_cons.mpr ⟨by decide, hDigits h⟩

/-- The numerals of commands are loose numerals of the same integers. -/
theorem readLoose?_of_denotes {t : Text} {n : Int} (h : Denotes t n) : readLoose? t = some n := by
  have hDrop {u : Text} (hu : ∀ c ∈ u, isMargin c = false) : u.dropWhile isMargin = u := by
    cases u with
    | nil => rfl
    | cons c rest => exact List.dropWhile_cons_of_neg (by simp [hu c List.mem_cons_self])
  have hTrim : ((t.dropWhile isMargin).reverse.dropWhile isMargin).reverse = t := by
    rw [hDrop h.isMargin_eq_false, hDrop, List.reverse_reverse]
    intro c hc
    exact h.isMargin_eq_false c (List.mem_reverse.mp hc)
  rw [readLoose?, hTrim]
  cases h with
  | plus h => simp only [readLooseDigits?_of_isDigits h]; rfl
  | minus h => simp only [readLooseDigits?_of_isDigits h]; rfl
  | plain h =>
    split
    · exact absurd rfl h.ne_sign.1
    · exact absurd rfl h.ne_sign.2
    · rw [readLooseDigits?_of_isDigits h]
      rfl

end Numeral

/-! ## The arguments -/

namespace Options

/-- The arguments that ask for a run of a source on a board. -/
def runArguments (board : Board) (source : Text) : List Text :=
  [Switch.width.long, Numeral.write board.width, Switch.height.long, Numeral.write board.height,
    Argument.separatorText, source]

/-- The numeral of a side starts with a digit. -/
theorem head?_write_ne_minus {n : Int} (h : 0 ≤ n) : (Numeral.write n).head? ≠ some '-' := by
  obtain ⟨n, rfl⟩ := Int.eq_ofNat_of_zero_le h
  intro hHead
  have hDigit : '-'.isDigit = true :=
    Nat.isDigit_of_mem_toDigits (by decide) (by decide) (List.mem_of_mem_head? hHead)
  exact absurd hDigit (by decide)

theorem write_ne_separatorText {n : Int} (h : 0 ≤ n) :
    Numeral.write n ≠ Argument.separatorText :=
  fun hEq => head?_write_ne_minus h (hEq ▸ rfl)

/-- A text that starts with no dash is a value. -/
theorem ofText_of_head?_ne {t : Text} (h : t.head? ≠ some '-') :
    Argument.ofText t = .ok (.value t) := by
  rw [Argument.ofText]
  rintro c rest rfl
  exact h rfl

theorem takeNumber_write (reading : Reading) {n : Int} (hFits : Numeral.Fits n) (hn : 0 ≤ n) :
    reading.takeNumber .width (Numeral.write n) = .ok { reading with width := .whole n } ∧
      reading.takeNumber .height (Numeral.write n) = .ok { reading with height := .whole n } := by
  have hRead := Numeral.readLoose?_of_denotes (Numeral.denotes_write hFits)
  have hNot := write_ne_separatorText hn
  constructor
  · rw [Reading.takeNumber, if_neg hNot, hRead]
    rfl
  · rw [Reading.takeNumber, if_neg hNot, hRead]
    rfl

theorem ofTexts_cons {t : Text} {argument : Argument} (hNot : t ≠ Argument.separatorText)
    (hText : Argument.ofText t = .ok argument) {others : List Text} {arguments : List Argument}
    (hOthers : Argument.ofTexts others = .ok arguments) :
    Argument.ofTexts (t :: others) = .ok (argument :: arguments) := by
  rw [Argument.ofTexts, if_neg hNot, hText, hOthers]
  rfl

theorem ofTexts_runArguments (board : Board) (source : Text) :
    Argument.ofTexts (runArguments board source) =
      .ok [.switch .width false none, .value (Numeral.write board.width),
        .switch .height false none, .value (Numeral.write board.height),
        .separator, .value source] := by
  have hWidth := Int.le_of_lt board.width_pos
  have hHeight := Int.le_of_lt board.height_pos
  have hBehind : Argument.ofTexts [Argument.separatorText, source] =
      .ok [.separator, .value source] := rfl
  apply ofTexts_cons (by decide) rfl
  apply ofTexts_cons (write_ne_separatorText hWidth)
    (ofText_of_head?_ne (head?_write_ne_minus hWidth))
  apply ofTexts_cons (by decide) rfl
  exact ofTexts_cons (write_ne_separatorText hHeight)
    (ofText_of_head?_ne (head?_write_ne_minus hHeight)) hBehind

theorem readArguments_number {switch : Switch} (hTakes : switch.takesValue = true)
    {reading taken : Reading} {t : Text} (hTaken : reading.takeNumber switch t = .ok taken)
    (arguments : List Argument) :
    readArguments reading (.switch switch false none :: .value t :: arguments) =
      readArguments taken arguments := by
  rw [readArguments, if_pos hTakes, hTaken]
  rfl

/-- A run on any board whose sides can be read can be asked for, of any source. -/
theorem read_runArguments {board : Board} (hBoard : board.Fits) (source : Text) :
    read (runArguments board source) =
      .ok (.run ⟨source, .whole board.width, .whole board.height, false, false⟩) := by
  have hWidth := (takeNumber_write {} hBoard.1 (Int.le_of_lt board.width_pos)).1
  have hHeight := (takeNumber_write { width := .whole board.width } hBoard.2
    (Int.le_of_lt board.height_pos)).2
  calc read (runArguments board source)
    _ = readArguments {} [.switch .width false none, .value (Numeral.write board.width),
          .switch .height false none, .value (Numeral.write board.height), .separator,
          .value source] := by
        rw [read, ofTexts_runArguments]
        rfl
    _ = readArguments { width := .whole board.width } [.switch .height false none,
          .value (Numeral.write board.height), .separator, .value source] :=
        readArguments_number rfl hWidth _
    _ = readArguments { width := .whole board.width, height := .whole board.height }
          [.separator, .value source] := readArguments_number rfl hHeight _
    _ = .ok (.run ⟨source, .whole board.width, .whole board.height, false, false⟩) := rfl

end Options

end Tabletop
