import Mathlib.Data.Nat.Digits.Defs
import Tabletop.Text.Numeral

/-!
# What numerals denote

A numeral is an optional sign and a run of ASCII digits, and denotes the integer that the digits
stand for by position. `Numeral.read?` reads exactly the numerals with at most 4300 digits
(`read?_eq_some_iff`). The canonical numeral of an integer denotes that integer, as long as it has
no more digits than that (`denotes_write`), and an integer that can be read at all is such an
integer (`Denotes.fits`).
-/

namespace Tabletop

namespace Numeral

/-- The value of a decimal digit. -/
def digitValue (c : Char) : Nat := c.toNat - '0'.toNat

/-- A run of 1 to 4300 ASCII digits that stands for `n`, the last digit for the units. -/
structure IsDigits (digits : Text) (n : Nat) : Prop where
  one_le : 1 ≤ digits.length
  le_limit : digits.length ≤ 4300
  digit : ∀ c ∈ digits, '0'.toNat ≤ c.toNat ∧ c.toNat ≤ '9'.toNat
  value : n = Nat.ofDigits 10 (digits.reverse.map digitValue)

/-- The texts that denote an integer. -/
inductive Denotes : Text → Int → Prop
  | plain {digits : Text} {n : Nat} (h : IsDigits digits n) : Denotes digits n
  | plus {digits : Text} {n : Nat} (h : IsDigits digits n) : Denotes ('+' :: digits) n
  | minus {digits : Text} {n : Nat} (h : IsDigits digits n) : Denotes ('-' :: digits) (-n)

/-- Reading from the left adds up to the value by position. -/
theorem ofDigitChars_eq_ofDigits (digits : Text) :
    Nat.ofDigitChars 10 digits 0 = Nat.ofDigits 10 (digits.reverse.map digitValue) := by
  induction digits with
  | nil => simp
  | cons c digits ih =>
    rw [Nat.ofDigitChars_cons, Nat.ofDigitChars_eq_ofDigitChars_zero, ih, List.reverse_cons,
      List.map_append, Nat.ofDigits_append, List.length_map, List.length_reverse]
    simp [digitValue, Nat.ofDigits_singleton]
    ring

theorem readDigits?_eq_some_iff {digits : Text} {n : Nat} :
    readDigits? digits = some n ↔ IsDigits digits n := by
  unfold readDigits?
  rw [ofDigitChars_eq_ofDigits]
  constructor
  · intro h
    split at h
    · rename_i hDigits
      obtain ⟨hNonempty, hAll, hLength⟩ := hDigits
      refine ⟨List.length_pos_iff.mpr hNonempty, hLength, ?_, by cases h; rfl⟩
      intro c hc
      exact Char.isDigit_iff_toNat.mp (List.all_eq_true.mp hAll c hc)
    · cases h
  · intro h
    have hAll : digits.all Char.isDigit = true :=
      List.all_eq_true.mpr fun c hc => Char.isDigit_iff_toNat.mpr (h.digit c hc)
    rw [if_pos ⟨List.length_pos_iff.mp h.one_le, hAll, h.le_limit⟩, h.value]

/-- A run of digits starts with no sign. -/
theorem IsDigits.ne_sign {c : Char} {digits : Text} {n : Nat} (h : IsDigits (c :: digits) n) :
    c ≠ '+' ∧ c ≠ '-' := by
  have hc := (h.digit c List.mem_cons_self).1
  refine ⟨?_, ?_⟩ <;> rintro rfl <;> exact absurd hc (by decide)

/-- `read?` reads exactly the texts that denote an integer. -/
theorem read?_eq_some_iff {t : Text} {n : Int} : read? t = some n ↔ Denotes t n := by
  constructor
  · intro h
    unfold read? at h
    split at h
    · obtain ⟨m, hm, rfl⟩ := Option.map_eq_some_iff.mp h
      exact .plus (readDigits?_eq_some_iff.mp hm)
    · obtain ⟨m, hm, rfl⟩ := Option.map_eq_some_iff.mp h
      obtain ⟨k, hk, hkm⟩ := Option.bind_eq_some_iff.mp hm
      cases hkm
      exact .minus (readDigits?_eq_some_iff.mp hk)
    · obtain ⟨m, hm, rfl⟩ := Option.map_eq_some_iff.mp h
      exact .plain (readDigits?_eq_some_iff.mp hm)
  · intro h
    cases h with
    | plus h => simp [read?, readDigits?_eq_some_iff.mpr h]
    | minus h => simp [read?, readDigits?_eq_some_iff.mpr h]
    | plain h =>
      cases t with
      | nil => exact absurd h.one_le (by simp)
      | cons c digits =>
        obtain ⟨hPlus, hMinus⟩ := h.ne_sign
        unfold read?
        split
        · rename_i heq
          cases heq
          exact absurd rfl hPlus
        · rename_i heq
          cases heq
          exact absurd rfl hMinus
        · rw [readDigits?_eq_some_iff.mpr h]
          rfl

/-! ## Canonical numerals -/

/-- The integers whose canonical numeral has at most 4300 digits. -/
def Fits (n : Int) : Prop := n.natAbs < 10 ^ 4300

theorem fits_iff {n : Int} : Fits n ↔ (Nat.toDigits 10 n.natAbs).length ≤ 4300 :=
  have hLength (k : Nat) (hk : 0 < k) : n.natAbs < 10 ^ k ↔ (Nat.toDigits 10 n.natAbs).length ≤ k :=
    (Nat.length_toDigits_le_iff (by decide) hk).symm
  hLength 4300 (by decide)

theorem Fits.of_natAbs_le {m n : Int} (h : Fits n) (hLe : m.natAbs ≤ n.natAbs) : Fits m :=
  Nat.lt_of_le_of_lt hLe h

theorem isDigits_toDigits {n : Nat} (h : Fits n) : IsDigits (Nat.toDigits 10 n) n where
  one_le := Nat.length_toDigits_pos
  le_limit := fits_iff.mp h
  digit c hc := Char.isDigit_iff_toNat.mp (Nat.isDigit_of_mem_toDigits (by decide) (by decide) hc)
  value := by rw [← ofDigitChars_eq_ofDigits, Nat.ofDigitChars_ten_toDigits]

theorem denotes_write {n : Int} (h : Fits n) : Denotes (write n) n := by
  cases n with
  | ofNat n => exact .plain (isDigits_toDigits h)
  | negSucc n => exact .minus (isDigits_toDigits h)

theorem IsDigits.fits {digits : Text} {n : Nat} (h : IsDigits digits n) : Fits n := by
  have hDigit : ∀ d ∈ digits.reverse.map digitValue, d < 10 := by
    intro d hd
    obtain ⟨c, hc, rfl⟩ := List.mem_map.mp hd
    have hRange := h.digit c (List.mem_reverse.mp hc)
    simp only [digitValue, Char.reduceToNat] at hRange ⊢
    omega
  have hValue := Nat.ofDigits_lt_base_pow_length (by decide) hDigit
  rw [← h.value, List.length_map, List.length_reverse] at hValue
  -- The canonical digits are no more than those that were read.
  have hLength : (Nat.toDigits 10 n).length ≤ digits.length :=
    (Nat.length_toDigits_le_iff (by decide) h.one_le).mpr hValue
  exact fits_iff.mpr (hLength.trans h.le_limit)

/-- What can be read can also be read from its canonical numeral. -/
theorem Denotes.fits {t : Text} {n : Int} (h : Denotes t n) : Fits n := by
  cases h with
  | plain h => exact h.fits
  | plus h => exact h.fits
  | minus h => exact h.fits.of_natAbs_le (by simp)

theorem mem_write {n : Int} {c : Char} (h : c ∈ write n) : c = '-' ∨ c.isDigit = true := by
  cases n with
  | ofNat n => exact Or.inr (Nat.isDigit_of_mem_toDigits (by decide) (by decide) h)
  | negSucc n =>
    rcases List.mem_cons.mp h with rfl | h
    · exact Or.inl rfl
    · exact Or.inr (Nat.isDigit_of_mem_toDigits (by decide) (by decide) h)

end Numeral

end Tabletop
