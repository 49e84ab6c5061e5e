import Tabletop.Text.Quoted

/-!
# The end of a quoted text

Between the quotes of a quoted text every quote of that kind and every backslash belongs to an
escape, which a backslash begins (`Text.Escaped`). So the first quote outside an escape ends the
text: where a quoted text ends does not depend on what comes behind it (`Escaped.append_inj`).

No line feed stands in a quoted text either. Both are said of it by `exists_quoted_eq`.
-/

namespace Tabletop

namespace Text

/-! ## Escapes -/

/-- A text in which the quote and the backslash stand in escapes only. An escape is a backslash and
one character. -/
inductive Escaped (quote : Char) : Text → Prop
  | nil : Escaped quote []
  | plain {c : Char} {t : Text} (hSlash : c ≠ '\\') (hQuote : c ≠ quote) (h : Escaped quote t) :
      Escaped quote (c :: t)
  | escape (c : Char) {t : Text} (h : Escaped quote t) : Escaped quote ('\\' :: c :: t)

namespace Escaped

variable {quote : Char} {s t : Text}

theorem append (hs : Escaped quote s) (ht : Escaped quote t) : Escaped quote (s ++ t) := by
  induction hs with
  | nil => exact ht
  | plain hSlash hQuote _ ih => exact .plain hSlash hQuote ih
  | escape c _ ih => exact .escape c ih

theorem of_plain (h : ∀ c ∈ t, c ≠ '\\' ∧ c ≠ quote) : Escaped quote t := by
  induction t with
  | nil => exact .nil
  | cons c t ih =>
    rw [List.forall_mem_cons] at h
    exact .plain h.1.1 h.1.2 (ih h.2)

/-- The first quote that belongs to no escape is found in one way only. -/
theorem append_inj (hSlash : quote ≠ '\\') (hs : Escaped quote s) (ht : Escaped quote t)
    {u v : Text} (h : s ++ quote :: u = t ++ quote :: v) : s = t ∧ u = v := by
  induction hs generalizing t with
  | nil =>
    cases ht with
    | nil => exact ⟨rfl, (List.cons.inj h).2⟩
    | plain _ hQuote _ => exact absurd (List.cons.inj h).1.symm hQuote
    | escape c _ => exact absurd (List.cons.inj h).1 hSlash
  | plain hNot hQuote _ ih =>
    cases ht with
    | nil => exact absurd (List.cons.inj h).1 hQuote
    | plain _ _ ht =>
      obtain ⟨rfl, hRest⟩ := List.cons.inj h
      obtain ⟨rfl, hBehind⟩ := ih ht hRest
      exact ⟨rfl, hBehind⟩
    | escape c _ => exact absurd (List.cons.inj h).1 hNot
  | escape c _ ih =>
    cases ht with
    | nil => exact absurd (List.cons.inj h).1.symm hSlash
    | plain hNot _ _ => exact absurd (List.cons.inj h).1.symm hNot
    | escape d ht =>
      obtain ⟨rfl, hRest⟩ := List.cons.inj (List.cons.inj h).2
      obtain ⟨rfl, hBehind⟩ := ih ht hRest
      exact ⟨rfl, hBehind⟩

end Escaped

/-! ## How characters are written -/

theorem isAlphanum_of_mem_toDigits {n : Nat} {c : Char} (h : c ∈ Nat.toDigits 16 n) :
    c.isAlphanum = true := by
  have hDigit : ∀ d < 16, (Nat.digitChar d).isAlphanum = true := by decide
  induction n using Nat.strongRecOn with
  | ind n ih =>
    rw [Nat.toDigits_eq_if (by decide)] at h
    split at h
    · rename_i hSmall
      rw [List.mem_singleton.mp h]
      exact hDigit n hSmall
    · rename_i hLarge
      rcases List.mem_append.mp h with hFirst | hLast
      · exact ih (n / 16) (Nat.div_lt_self (by omega) (by decide)) hFirst
      · rw [List.mem_singleton.mp hLast]
        exact hDigit (n % 16) (Nat.mod_lt n (by decide))

/-- A code point is written as an escape with letters and digits behind it. -/
theorem escapeCode_eq (codePoint : Nat) : ∃ c digits, escapeCode codePoint = '\\' :: c :: digits ∧
    ∀ d ∈ c :: digits, d.isAlphanum = true := by
  have hPadded (zeros : Nat) : ∀ d ∈ List.replicate zeros '0' ++ Nat.toDigits 16 codePoint,
      d.isAlphanum = true := by
    intro d hd
    rcases List.mem_append.mp hd with hZero | hDigit
    · rw [List.eq_of_mem_replicate hZero]
      decide
    · exact isAlphanum_of_mem_toDigits hDigit
  unfold escapeCode
  dsimp only
  split
  · exact ⟨'x', _, rfl, List.forall_mem_cons.mpr ⟨by decide, hPadded _⟩⟩
  · split
    · exact ⟨'u', _, rfl, List.forall_mem_cons.mpr ⟨by decide, hPadded _⟩⟩
    · exact ⟨'U', _, rfl, List.forall_mem_cons.mpr ⟨by decide, hPadded _⟩⟩

/-- The two characters that a text is written between. -/
def quotes : List Char := ['\'', '"']

theorem quoteFor_mem (t : Text) : t.quoteFor ∈ quotes := by
  unfold quoteFor
  split <;> decide

theorem eq_of_mem_quotes {quote : Char} (h : quote ∈ quotes) : quote = '\'' ∨ quote = '"' := by
  simpa [quotes] using h

theorem not_isAlphanum_of_mem_quotes {quote : Char} (h : quote ∈ quotes) :
    quote.isAlphanum = false := by
  rcases eq_of_mem_quotes h with rfl | rfl <;> rfl

/-- A character is written as it is or by an escape with letters and digits behind it. -/
theorem escapeChar_eq {quote : Char} (hQuote : quote ∈ quotes) (c : Char) :
    (escapeChar quote c = [c] ∧ c ≠ '\\' ∧ c ≠ quote ∧ c ≠ '\n') ∨
      ∃ d digits, escapeChar quote c = '\\' :: d :: digits ∧ d ≠ '\n' ∧
        ∀ x ∈ digits, x.isAlphanum = true := by
  have hNone : ∀ x ∈ ([] : Text), x.isAlphanum = true := fun x hx => absurd hx List.not_mem_nil
  unfold escapeChar
  split
  · rename_i hSpecial
    refine Or.inr ⟨c, [], rfl, ?_, hNone⟩
    rintro rfl
    rcases hSpecial with h | rfl
    · exact absurd h (by decide)
    · exact absurd hQuote (by decide)
  · rename_i hNot
    rw [not_or] at hNot
    split
    · exact Or.inr ⟨'t', [], rfl, by decide, hNone⟩
    split
    · exact Or.inr ⟨'n', [], rfl, by decide, hNone⟩
    rename_i hFeed
    split
    · exact Or.inr ⟨'r', [], rfl, by decide, hNone⟩
    split
    · exact Or.inl ⟨rfl, hNot.1, hNot.2, hFeed⟩
    · obtain ⟨d, digits, hCode, hDigits⟩ := escapeCode_eq c.toNat
      rw [List.forall_mem_cons] at hDigits
      refine Or.inr ⟨d, digits, hCode, ?_, hDigits.2⟩
      rintro rfl
      exact absurd hDigits.1 (by decide)

theorem escaped_escapeChar {quote : Char} (hQuote : quote ∈ quotes) (c : Char) :
    Escaped quote (escapeChar quote c) := by
  rcases escapeChar_eq hQuote c with ⟨hPlain, hSlash, hNot, -⟩ | ⟨d, digits, hEscape, -, hDigits⟩
  · rw [hPlain]
    exact .plain hSlash hNot .nil
  · rw [hEscape]
    refine .escape d (.of_plain fun x hx => ⟨?_, ?_⟩)
    · rintro rfl
      exact absurd (hDigits _ hx) (by decide)
    · rintro rfl
      have hAlphanum := hDigits x hx
      rw [not_isAlphanum_of_mem_quotes hQuote] at hAlphanum
      cases hAlphanum

theorem feed_notMem_escapeChar {quote : Char} (hQuote : quote ∈ quotes) (c : Char) :
    '\n' ∉ escapeChar quote c := by
  rcases escapeChar_eq hQuote c with ⟨hPlain, -, -, hFeed⟩ | ⟨d, digits, hEscape, hFeed, hDigits⟩
  · rw [hPlain, List.mem_singleton]
    exact Ne.symm hFeed
  · rw [hEscape]
    intro hMem
    rcases List.mem_cons.mp hMem with hSlash | hMem
    · exact absurd hSlash (by decide)
    rcases List.mem_cons.mp hMem with hFirst | hMem
    · exact hFeed hFirst.symm
    · exact absurd (hDigits _ hMem) (by decide)

/-! ## Quoted texts -/

/-- A quoted text is a quote, a text without line feeds in which that quote stands in escapes only,
and the quote again. -/
theorem exists_quoted_eq (t : Text) : ∃ quote ∈ quotes, ∃ inner, Escaped quote inner ∧
    '\n' ∉ inner ∧ t.quoted = quote :: (inner ++ [quote]) := by
  have hEscaped : ∀ part : Text, Escaped t.quoteFor (part.flatMap (escapeChar t.quoteFor)) := by
    intro part
    induction part with
    | nil => exact .nil
    | cons c part ih => exact (escaped_escapeChar t.quoteFor_mem c).append ih
  have hFeed : '\n' ∉ t.flatMap (escapeChar t.quoteFor) := by
    rw [List.mem_flatMap]
    rintro ⟨c, -, hc⟩
    exact feed_notMem_escapeChar t.quoteFor_mem c hc
  exact ⟨t.quoteFor, t.quoteFor_mem, _, hEscaped t, hFeed, rfl⟩

end Text

end Tabletop
