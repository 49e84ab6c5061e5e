import Mathlib.Data.List.Forall2
import Tabletop.Text.Basic

/-!
# Upper and lower case of ASCII letters

Two characters are the same letter when they are equal or an ASCII letter in its two cases. Two
texts are case variants when they are the same letters from the first to the last; this is what
`Text.upper` decides (`caseVariant_iff`). A character outside ASCII is the same letter as itself
only. Words are looked up in capitals, so that any case variant of a word finds it
(`find?_upper_eq_some_iff`).
-/

namespace Tabletop

namespace Text

/-- A capital and the small letter that belongs to it. -/
def IsCapitalOf (capital small : Char) : Prop :=
  'A'.toNat ≤ capital.toNat ∧ capital.toNat ≤ 'Z'.toNat ∧ small.toNat = capital.toNat + 32

/-- Equal characters, or the two cases of one ASCII letter. -/
def SameLetter (c d : Char) : Prop := c = d ∨ IsCapitalOf c d ∨ IsCapitalOf d c

/-- Texts that differ at most in the case of ASCII letters. -/
def CaseVariant (s t : Text) : Prop := List.Forall₂ SameLetter s t

theorem toNat_toUpper (c : Char) :
    c.toUpper.toNat =
      if 'a'.toNat ≤ c.toNat ∧ c.toNat ≤ 'z'.toNat then c.toNat - 32 else c.toNat := by
  unfold Char.toUpper
  by_cases h : 'a'.val ≤ c.val ∧ c.val ≤ 'z'.val
  · have hNat : 'a'.toNat ≤ c.toNat ∧ c.toNat ≤ 'z'.toNat := h
    rw [dif_pos h, if_pos hNat]
    have hLow : (97 : Nat) ≤ c.val.toNat := hNat.1
    have hHigh : c.val.toNat ≤ 122 := hNat.2
    change (c.val + ('A'.val - 'a'.val)).toNat = c.val.toNat - 32
    rw [UInt32.toNat_add]
    have hShift : ('A'.val - 'a'.val).toNat = 2 ^ 32 - 32 := by decide
    omega
  · have hNat : ¬ ('a'.toNat ≤ c.toNat ∧ c.toNat ≤ 'z'.toNat) := h
    rw [dif_neg h, if_neg hNat]

/-- The same letters have the same upper case. -/
theorem sameLetter_iff {c d : Char} : SameLetter c d ↔ c.toUpper = d.toUpper := by
  have hc := toNat_toUpper c
  have hd := toNat_toUpper d
  unfold SameLetter IsCapitalOf
  rw [← Char.toNat_inj, ← Char.toNat_inj, hc, hd]
  simp only [Char.reduceToNat]
  split <;> split <;> omega

theorem caseVariant_iff {s t : Text} : CaseVariant s t ↔ upper s = upper t := by
  unfold CaseVariant upper
  induction s generalizing t with
  | nil => cases t <;> simp
  | cons c s ih => cases t <;> simp [sameLetter_iff, ih]

/-! ## Upper case -/

/-- Of characters before the letters, each is the upper case of itself only. -/
theorem toUpper_eq_iff {c d : Char} (hd : d.toNat < 'A'.toNat) : c.toUpper = d ↔ c = d := by
  have hc := toNat_toUpper c
  rw [← Char.toNat_inj, ← Char.toNat_inj, hc]
  simp only [Char.reduceToNat] at hd ⊢
  split <;> omega

theorem toUpper_toUpper (c : Char) : c.toUpper.toUpper = c.toUpper := by
  have hSmall : ¬ ('a'.toNat ≤ c.toUpper.toNat ∧ c.toUpper.toNat ≤ 'z'.toNat) := by
    rw [toNat_toUpper]
    simp only [Char.reduceToNat]
    split <;> omega
  rw [← Char.toNat_inj, toNat_toUpper c.toUpper, if_neg hSmall]

theorem upper_upper (t : Text) : upper (upper t) = upper t := by
  simp only [upper, List.map_map]
  exact List.map_congr_left fun c _ => toUpper_toUpper c

theorem isDigit_toUpper (c : Char) : c.toUpper.isDigit = c.isDigit := by
  have hc := toNat_toUpper c
  rw [Bool.eq_iff_iff, Char.isDigit_iff_toNat, Char.isDigit_iff_toNat, hc]
  simp only [Char.reduceToNat]
  split <;> omega

/-! ## Looking up a word -/

/-- Among things with different names in capitals, the one whose name is written as `t` in
whatever case. -/
theorem find?_upper_eq_some_iff {α : Type} {name : α → Text} {items : List α}
    (hUpper : ∀ a ∈ items, upper (name a) = name a)
    (hName : ∀ a ∈ items, ∀ b ∈ items, name a = name b → a = b) {t : Text} {a : α} :
    items.find? (fun b => name b == upper t) = some a ↔ a ∈ items ∧ CaseVariant (name a) t := by
  constructor
  · intro h
    have hMem := List.mem_of_find?_eq_some h
    have hEq : name a = upper t := by simpa using List.find?_some h
    exact ⟨hMem, caseVariant_iff.mpr ((hUpper a hMem).trans hEq)⟩
  · rintro ⟨hMem, hCase⟩
    have hEq : name a = upper t := (hUpper a hMem).symm.trans (caseVariant_iff.mp hCase)
    cases h : items.find? (fun b => name b == upper t) with
    | none =>
      have := List.find?_eq_none.mp h a hMem
      simp [hEq] at this
    | some b =>
      have hb : name b = upper t := by simpa using List.find?_some h
      rw [hName b (List.mem_of_find?_eq_some h) a hMem (hb.trans hEq.symm)]

end Text

end Tabletop
