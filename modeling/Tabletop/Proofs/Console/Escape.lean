import Tabletop.Proofs.Console.Tags

/-!
# Escaped text has no tags

`Markup.escape` puts an odd number of backslashes before every tag, so that none is left
(`tags_escape`), and an escaped text can always be shown (`exists_render_escape`).

The proof goes through the brackets of the text as `escapeSegments` does. The text before the
brackets that are still to come is `Tagless`: no bracket in it begins a tag, and none will, whatever
stands behind it, as long as that begins with backslashes or a bracket.
-/

namespace Tabletop

namespace Markup

/-! ## Text in which no bracket begins a tag -/

/-- A text in which no bracket begins a tag, read up to the next bracket or to the end. -/
inductive Tagless : Text → Prop
  | text {t : Text} (hOpen : '[' ∉ t) : Tagless t
  | bracket {t segment : Text} (h : Tagless t) (hOpen : '[' ∉ segment)
      (hTag : tag? segment = none) :
      Tagless (t ++ '[' :: segment)

theorem tag?_append_eq_none {t w : Text} (h : tag? t = none) (hClosed : ']' ∉ w) :
    tag? (t ++ w) = none := by
  rw [Option.eq_none_iff_forall_ne_some]
  rintro ⟨body, rest⟩ hFound
  obtain ⟨hEq, hBody⟩ := tag?_eq_some_iff.mp hFound
  rcases List.append_eq_append_iff.mp hEq with ⟨u, -, hw⟩ | ⟨u, ht, hRest⟩
  · exact hClosed (by simp [hw])
  · cases u with
    | nil =>
      rw [List.nil_append] at hRest
      exact hClosed (hRest ▸ List.mem_cons_self)
    | cons c u =>
      -- The first closing bracket stands in `t`, which has the tag already.
      cases hRest
      rw [tag?_eq_some_iff.mpr ⟨ht, hBody⟩] at h
      cases h

namespace Tagless

/-- Text without brackets can be put behind. -/
theorem append {t w : Text} (h : Tagless t) (hOpen : '[' ∉ w) (hClosed : ']' ∉ w) :
    Tagless (t ++ w) := by
  cases h with
  | text hText => exact .text (by simp [hText, hOpen])
  | @bracket t segment hBefore hSegment hTag =>
    rw [List.append_assoc, List.cons_append]
    exact .bracket hBefore (by simp [hSegment, hOpen]) (tag?_append_eq_none hTag hClosed)

/-- The tags of what follows a bracket behind the text are all there are. -/
theorem tags_append_bracket {t : Text} (h : Tagless t) (u : Text) :
    tags (t ++ '[' :: u) = tagsAfter t (u.splitOn '[') := by
  induction h generalizing u with
  | text hOpen => exact tags_of_splitOn (List.splitOn_append_cons_self_of_not_mem hOpen u)
  | @bracket t segment hBefore hOpen hTag ih =>
    rw [List.append_assoc, List.cons_append, ih,
      List.splitOn_append_cons_self_of_not_mem hOpen, tagsAfter_of_none hTag]

theorem tags_eq_nil {t : Text} (h : Tagless t) : tags t = [] := by
  cases h with
  | text hOpen => exact tags_of_not_mem hOpen
  | bracket hBefore hOpen hTag =>
    rw [hBefore.tags_append_bracket, List.splitOn_eq_singleton hOpen, tagsAfter_of_none hTag]
    rfl

end Tagless

/-! ## Escaped text -/

theorem backslashes_append_replicate (t : Text) (n : Nat) :
    backslashes (t ++ List.replicate n '\\') = n + backslashes t := by
  have hAll : ∀ c ∈ List.replicate n '\\', (c == '\\') = true := by simp
  unfold backslashes
  rw [List.reverse_append, List.reverse_replicate, List.takeWhile_append_of_pos hAll]
  simp

/-- A tag behind an odd number of backslashes is none. -/
theorem tags_escaped_tag {before body : Text} (hBefore : Tagless before) (hBody : IsTag body)
    (hOpen : '[' ∉ body) (t : Text) :
    tags (before ++ List.replicate (backslashes before + 1) '\\' ++ '[' :: (body ++ ']' :: t)) =
      tags t := by
  have hInner : '[' ∉ body ++ [']'] := by simpa using hOpen
  have hSlashes : Tagless (before ++ List.replicate (backslashes before + 1) '\\') :=
    hBefore.append (by simp) (by simp)
  have hOdd : backslashes (before ++ List.replicate (backslashes before + 1) '\\') % 2 ≠ 0 := by
    rw [backslashes_append_replicate]
    omega
  obtain ⟨first, others, hSplit, -⟩ := Text.exists_pieces '[' t
  have hRest : (body ++ ']' :: t).splitOn '[' = (body ++ ']' :: first) :: others := by
    have hJoined := Text.splitOn_append_of_not_mem hInner hSplit
    simpa using hJoined
  rw [hSlashes.tags_append_bracket, hRest, tags_of_splitOn hSplit, tagsAfter,
    tag?_eq_some_iff.mpr ⟨rfl, hBody⟩]
  simp only [hOdd, if_false]

/-- `w` is what the escaping may add at the very end. -/
theorem tags_escapeSegments_append {before : Text} {segments : List Text} (hBefore : Tagless before)
    (hSegments : ∀ segment ∈ segments, '[' ∉ segment) {w : Text} (hOpen : '[' ∉ w)
    (hClosed : ']' ∉ w) :
    tags (escapeSegments before segments ++ w) = [] := by
  induction segments generalizing before with
  | nil => exact (hBefore.append hOpen hClosed).tags_eq_nil
  | cons segment segments ih =>
    have hSegment : '[' ∉ segment := hSegments segment List.mem_cons_self
    have hOthers : ∀ other ∈ segments, '[' ∉ other := by
      intro other hOther
      exact hSegments other (List.mem_cons_of_mem segment hOther)
    unfold escapeSegments
    cases hTag : tag? segment with
    | none => exact ih (.bracket hBefore hSegment hTag) hOthers
    | some found =>
      obtain ⟨body, rest⟩ := found
      obtain ⟨rfl, hBody⟩ := tag?_eq_some_iff.mp hTag
      simp only [List.mem_append, List.mem_cons, not_or] at hSegment
      have hRest : tags (escapeSegments rest segments ++ w) = [] :=
        ih (.text hSegment.2.2) hOthers
      have hTags := tags_escaped_tag hBefore hBody hSegment.1 (escapeSegments rest segments ++ w)
      rw [hRest] at hTags
      simpa using hTags

theorem tags_escape (t : Text) : tags (escape t) = [] := by
  obtain ⟨before, segments, hSplit, hBefore, hSegments, -⟩ := Text.exists_pieces '[' t
  simp only [escape, hSplit]
  split
  · exact tags_escapeSegments_append (.text hBefore) hSegments (by simp) (by simp)
  · simpa using tags_escapeSegments_append (.text hBefore) hSegments (w := []) (by simp) (by simp)

example : tags "[b]x[/b]\\[a]".toList = ["b".toList, "/b".toList] ∧
    tags (escape "[b]x[/b]\\[a]".toList) = [] := by decide

/-- Escaped text can always be shown. -/
theorem exists_render_escape (t : Text) : ∃ shown, render (escape t) = .ok shown := by
  cases hRender : render (escape t) with
  | ok shown => exact ⟨shown, rfl⟩
  | error cause =>
    have hStuck : HasStuckTag (escape t) := render_eq_error_iff.mp ⟨cause, hRender⟩
    rw [HasStuckTag, tags_escape] at hStuck
    cases hStuck

end Markup

end Tabletop
