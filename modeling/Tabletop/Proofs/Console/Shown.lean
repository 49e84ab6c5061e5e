import Tabletop.Proofs.Console.Codes
import Tabletop.Proofs.Console.Escape

/-!
# What is shown of a text

`Markup.shownIn` is what is shown of a text while some styles are open, if it can be shown; where
the text begins does not matter. A tag shows nothing, and plain text in front shows itself. Of a
text without emoji codes, nothing is shown but what stands in it (`Markup.sublist_of_shownIn`), and
all of it is shown exactly if no bracket in it begins a tag or has a backslash in front
(`Markup.shownIn_eq_self_iff`).
-/

namespace Tabletop

namespace Markup

/-! ## Brackets that begin tags -/

/-- A bracket in front of the text begins a tag. -/
def OpensTag (t : Text) : Prop :=
  ∃ body rest, t = body ++ ']' :: rest ∧ IsTag body ∧ '[' ∉ body

theorem opensTag_iff_tag? {t : Text} (hOpen : '[' ∉ t) : OpensTag t ↔ tag? t ≠ none := by
  constructor
  · rintro ⟨body, rest, rfl, hBody, -⟩
    rw [tag?_eq_some_iff.mpr ⟨rfl, hBody⟩]
    exact Option.some_ne_none _
  · intro hSome
    obtain ⟨⟨body, rest⟩, hTag⟩ := Option.ne_none_iff_exists'.mp hSome
    obtain ⟨rfl, hBody⟩ := tag?_eq_some_iff.mp hTag
    refine ⟨body, rest, rfl, hBody, fun hMem => hOpen ?_⟩
    exact List.mem_append_left _ hMem

/-- A tag ends before the next bracket. -/
theorem opensTag_append_bracket {t w : Text} : OpensTag (t ++ '[' :: w) ↔ OpensTag t := by
  constructor
  · rintro ⟨body, rest, hEq, hBody, hOpen⟩
    rcases List.append_eq_append_iff.mp hEq with ⟨u, rfl, hw⟩ | ⟨u, rfl, hRest⟩
    · cases u with
      | nil => exact absurd (List.cons.inj hw).1 (by decide)
      | cons c u =>
        obtain ⟨rfl, -⟩ := List.cons.inj hw
        exact absurd (by simp) hOpen
    · cases u with
      | nil => exact absurd (List.cons.inj hRest).1 (by decide)
      | cons c u =>
        obtain ⟨rfl, -⟩ := List.cons.inj hRest
        exact ⟨body, u, rfl, hBody, hOpen⟩
  · rintro ⟨body, rest, rfl, hBody, hOpen⟩
    exact ⟨body, rest ++ '[' :: w, by simp, hBody, hOpen⟩

theorem opensTag_segments {segment : Text} (hOpen : '[' ∉ segment) (segments : List Text) :
    OpensTag (segment ++ segments.flatMap ('[' :: ·)) ↔ tag? segment ≠ none := by
  rw [← opensTag_iff_tag? hOpen]
  cases segments with
  | nil => rw [List.flatMap_nil, List.append_nil]
  | cons next segments =>
    rw [List.flatMap_cons, List.cons_append]
    exact opensTag_append_bracket

/-- No bracket of the text begins a tag. -/
theorem tagless_iff {t : Text} : Tagless t ↔ ∀ u v, t = u ++ '[' :: v → ¬ OpensTag v := by
  constructor
  · intro h
    induction h with
    | text hOpen =>
      rintro u v rfl
      exact absurd (by simp) hOpen
    | @bracket t segment hBefore hOpen hTag ih =>
      intro u v hEq
      rcases List.append_eq_append_iff.mp hEq with ⟨w, rfl, hw⟩ | ⟨w, rfl, hw⟩
      · cases w with
        | nil =>
          obtain ⟨-, rfl⟩ := List.cons.inj hw
          rw [opensTag_iff_tag? hOpen]
          exact not_not_intro hTag
        | cons c w =>
          obtain ⟨-, rfl⟩ := List.cons.inj hw
          exact absurd (by simp) hOpen
      · cases w with
        | nil =>
          obtain ⟨-, rfl⟩ := List.cons.inj hw
          rw [opensTag_iff_tag? hOpen]
          exact not_not_intro hTag
        | cons c w =>
          obtain ⟨rfl, rfl⟩ := List.cons.inj hw
          exact fun hTagged => ih u w rfl (opensTag_append_bracket.mp hTagged)
  · intro h
    have hJoin : ∀ {before : Text} {segments : List Text}, Tagless before →
        (∀ segment ∈ segments, '[' ∉ segment) → t = before ++ segments.flatMap ('[' :: ·) →
        Tagless t := by
      intro before segments hBefore hSegments hWhole
      induction segments generalizing before with
      | nil => rwa [hWhole, List.flatMap_nil, List.append_nil]
      | cons segment segments ih =>
        rw [List.forall_mem_cons] at hSegments
        rw [List.flatMap_cons, List.cons_append] at hWhole
        have hNone := h _ _ hWhole
        rw [opensTag_segments hSegments.1, not_not] at hNone
        exact ih (.bracket hBefore hSegments.1 hNone) hSegments.2 (by simp [hWhole])
    obtain ⟨before, segments, -, hBefore, hSegments, hWhole⟩ := Text.exists_pieces '[' t
    exact hJoin (.text hBefore) hSegments hWhole

/-! ## The pieces of a text -/

/-- The pieces of a text that starts at `position`. -/
def piecesFrom (position : Nat) (t : Text) : List Piece :=
  match t.splitOn '[' with
  | [] => []
  | before :: segments => pieces position before segments

theorem piecesFrom_of_splitOn {t before : Text} {segments : List Text}
    (h : t.splitOn '[' = before :: segments) (position : Nat) :
    piecesFrom position t = pieces position before segments := by
  rw [piecesFrom, h]

theorem pieces_of_none {segment : Text} (h : tag? segment = none) (position : Nat) (before : Text)
    (segments : List Text) :
    pieces position before (segment :: segments) =
      pieces position (before ++ '[' :: segment) segments := by
  rw [pieces, h]

/-- What follows a bracket behind a text without tags is read with that text before it. -/
theorem Tagless.piecesFrom_append_bracket {t : Text} (h : Tagless t) (position : Nat) (u : Text) :
    piecesFrom position (t ++ '[' :: u) = pieces position t (u.splitOn '[') := by
  induction h generalizing u with
  | text hOpen =>
    exact piecesFrom_of_splitOn (List.splitOn_append_cons_self_of_not_mem hOpen u) position
  | @bracket t segment hBefore hOpen hTag ih =>
    rw [List.append_assoc, List.cons_append, ih,
      List.splitOn_append_cons_self_of_not_mem hOpen, pieces_of_none hTag]

/-- A text without tags is one piece. -/
theorem Tagless.piecesFrom_eq {t : Text} (h : Tagless t) (position : Nat) :
    piecesFrom position t = [.plain t] := by
  cases h with
  | text hOpen => exact piecesFrom_of_splitOn (List.splitOn_eq_singleton hOpen) position
  | bracket hBefore hOpen hTag =>
    rw [hBefore.piecesFrom_append_bracket, List.splitOn_eq_singleton hOpen, pieces_of_none hTag]
    rfl

/-! ## Backslashes at the end -/

/-- `t` without the backslashes it ends with. -/
def trimSlashes (t : Text) : Text := (t.reverse.dropWhile (· == '\\')).reverse

theorem trimSlashes_append (t : Text) :
    trimSlashes t ++ List.replicate (backslashes t) '\\' = t := by
  have hSlashes : t.reverse.takeWhile (· == '\\') = List.replicate (backslashes t) '\\' := by
    rw [List.eq_replicate_iff]
    exact ⟨rfl, fun c hc => by simpa using List.mem_takeWhile_imp hc⟩
  calc trimSlashes t ++ List.replicate (backslashes t) '\\'
      = (t.reverse.takeWhile (· == '\\') ++ t.reverse.dropWhile (· == '\\')).reverse := by
        rw [List.reverse_append, hSlashes, List.reverse_replicate, trimSlashes]
    _ = t := by rw [List.takeWhile_append_dropWhile, List.reverse_reverse]

theorem take_eq_trimSlashes (t : Text) :
    t.take (t.length - backslashes t) = trimSlashes t := by
  calc t.take (t.length - backslashes t)
      = (trimSlashes t ++ List.replicate (backslashes t) '\\').take
          ((trimSlashes t ++ List.replicate (backslashes t) '\\').length - backslashes t) := by
        rw [trimSlashes_append]
    _ = trimSlashes t := by simp

theorem backslashes_plain_append {u : Text} (h : IsPlain u) (t : Text) :
    backslashes (u ++ t) = backslashes t := by
  rcases u.eq_nil_or_concat with rfl | ⟨v, c, rfl⟩
  · rfl
  · have hc : c ≠ '\\' := (h c (by simp)).2
    rw [List.concat_append, backslashes_append_cons hc]

theorem trimSlashes_plain_append {u : Text} (h : IsPlain u) (t : Text) :
    trimSlashes (u ++ t) = u ++ trimSlashes t := by
  have hWhole : trimSlashes (u ++ t) ++ List.replicate (backslashes t) '\\' = u ++ t := by
    rw [← backslashes_plain_append h, trimSlashes_append]
  have hEnd : trimSlashes (u ++ t) ++ List.replicate (backslashes t) '\\' =
      u ++ trimSlashes t ++ List.replicate (backslashes t) '\\' := by
    rw [hWhole, List.append_assoc, trimSlashes_append]
  exact List.append_cancel_right hEnd

theorem trimSlashes_of_plain {u : Text} (h : IsPlain u) : trimSlashes u = u := by
  have hEnd := trimSlashes_plain_append h []
  simpa [trimSlashes] using hEnd

theorem backslashes_of_plain {u : Text} (h : IsPlain u) : backslashes u = 0 := by
  have hEnd := backslashes_plain_append h []
  rwa [List.append_nil] at hEnd

/-! ## What is shown -/

theorem toOption_map {ε α β : Type} (f : α → β) (x : Except ε α) :
    (x.map f).toOption = x.toOption.map f := by
  cases x <;> rfl

theorem toOption_plain (stack : List Text) (text : Text) (others : List Piece) :
    (renderPieces stack (.plain text :: others)).toOption =
      (renderPieces stack others).toOption.map (shown text ++ ·) := by
  rw [renderPieces, toOption_map]

theorem toOption_stuck {stack : List Text} {body : Text} (h : Stuck stack body) (position : Nat)
    (others : List Piece) :
    (renderPieces stack (.tag position body :: others)).toOption = none := by
  obtain ⟨cause, hCause⟩ := renderPieces_of_stuck h position others
  rw [hCause]
  rfl

/-- What is shown of a text that is given as in `pieces`, while the styles in `stack` are open, if
it can be shown. -/
def shownFrom (stack : List Text) (before : Text) (segments : List Text) : Option Text :=
  (renderPieces stack (pieces 0 before segments)).toOption

/-- It does not matter where a text starts. -/
theorem toOption_renderPieces_pieces (stack : List Text) (position : Nat) (before : Text)
    (segments : List Text) :
    (renderPieces stack (pieces position before segments)).toOption =
      shownFrom stack before segments := by
  unfold shownFrom
  generalize 0 = start
  induction segments generalizing stack position start before with
  | nil => rfl
  | cons segment segments ih =>
    unfold pieces
    cases tag? segment with
    | none => exact ih stack position _ start
    | some found =>
      obtain ⟨body, rest⟩ := found
      dsimp only
      simp only [toOption_plain]
      by_cases hEven : backslashes before % 2 = 0
      · rw [if_pos hEven, if_pos hEven]
        rcases tagStep_or_stuck stack body with ⟨next, hStep⟩ | hStuck
        · rw [renderPieces_of_tagStep hStep, renderPieces_of_tagStep hStep, ih next _ rest _]
        · rw [toOption_stuck hStuck, toOption_stuck hStuck]
      · rw [if_neg hEven, if_neg hEven, toOption_plain, toOption_plain, ih stack _ rest _]

theorem shown_slashes (n : Nat) : shown (List.replicate n '\\') = List.replicate n '\\' := by
  rw [shown_of_uncoded (uncoded_of_not_mem (by simp)), dropEscapes_of_not_mem (by simp)]

theorem shownFrom_nil (stack : List Text) (before : Text) :
    shownFrom stack before [] = some (shown before) := by
  rw [shownFrom, pieces, toOption_plain]
  simp [renderPieces, Except.toOption]

theorem shownFrom_none {segment : Text} (h : tag? segment = none) (stack : List Text)
    (before : Text) (segments : List Text) :
    shownFrom stack before (segment :: segments) =
      shownFrom stack (before ++ '[' :: segment) segments := by
  rw [shownFrom, pieces_of_none h, shownFrom]

section Tag

variable {segment body rest before : Text} {stack : List Text}

/-- A tag shows half of the backslashes in front of it. -/
theorem shownFrom_tag {next : List Text} (hTag : tag? segment = some (body, rest))
    (hEven : backslashes before % 2 = 0) (hStep : TagStep stack body next) (segments : List Text) :
    shownFrom stack before (segment :: segments) = (shownFrom next rest segments).map fun t =>
      shown (trimSlashes before) ++ (List.replicate (backslashes before / 2) '\\' ++ t) := by
  rw [shownFrom, pieces, hTag]
  dsimp only
  rw [if_pos hEven, toOption_plain, toOption_plain, renderPieces_of_tagStep hStep,
    toOption_renderPieces_pieces, shown_slashes, take_eq_trimSlashes, Option.map_map]
  rfl

theorem shownFrom_stuck (hTag : tag? segment = some (body, rest))
    (hEven : backslashes before % 2 = 0) (hStuck : Stuck stack body) (segments : List Text) :
    shownFrom stack before (segment :: segments) = none := by
  rw [shownFrom, pieces, hTag]
  dsimp only
  rw [if_pos hEven, toOption_plain, toOption_plain, toOption_stuck hStuck]
  rfl

/-- A tag behind an odd number of backslashes is shown. -/
theorem shownFrom_escaped (hTag : tag? segment = some (body, rest))
    (hOdd : ¬ backslashes before % 2 = 0) (segments : List Text) :
    shownFrom stack before (segment :: segments) = (shownFrom stack rest segments).map fun t =>
      shown (trimSlashes before) ++ (List.replicate (backslashes before / 2) '\\' ++
        (shown ('[' :: (body ++ [']'])) ++ t)) := by
  rw [shownFrom, pieces, hTag]
  dsimp only
  rw [if_neg hOdd, toOption_plain, toOption_plain, toOption_plain, toOption_renderPieces_pieces,
    shown_slashes, take_eq_trimSlashes, Option.map_map, Option.map_map]
  rfl

end Tag

/-- What is shown of a text while the styles in `stack` are open, if it can be shown. -/
def shownIn (stack : List Text) (t : Text) : Option Text :=
  (renderPieces stack (piecesFrom 0 t)).toOption

theorem shownIn_of_splitOn {t before : Text} {segments : List Text}
    (h : t.splitOn '[' = before :: segments) (stack : List Text) :
    shownIn stack t = shownFrom stack before segments := by
  rw [shownIn, piecesFrom_of_splitOn h, shownFrom]

theorem Tagless.shownIn_append_bracket {t : Text} (h : Tagless t) (stack : List Text) (u : Text) :
    shownIn stack (t ++ '[' :: u) = shownFrom stack t (u.splitOn '[') := by
  rw [shownIn, h.piecesFrom_append_bracket, shownFrom]

theorem toOption_render (t : Text) :
    (render t).toOption = (shownIn [] t).map (·.filter (!isDropped ·)) :=
  toOption_map _ _

/-! ## Text in front -/

theorem IsPlain.open_notMem {u : Text} (h : IsPlain u) : '[' ∉ u := fun hMem => (h '[' hMem).1 rfl

theorem dropEscapes_plain_append {u : Text} (h : IsPlain u) (t : Text) :
    dropEscapes (u ++ t) = u ++ dropEscapes t := by
  induction u with
  | nil => rfl
  | cons c u ih =>
    have hTail : IsPlain u := fun d hd => h d (List.mem_cons_of_mem c hd)
    rw [List.cons_append, dropEscapes, ih hTail, List.cons_append]
    rintro rest rfl
    exact absurd rfl (h '\\' List.mem_cons_self).2

theorem replaceEmoji_append {u : Text} (h : ':' ∉ u) (t : Text) :
    Console.replaceEmoji (u ++ t) = u ++ Console.replaceEmoji t := by
  obtain ⟨first, others, hSplit, -⟩ := Text.exists_pieces ':' t
  rw [Console.replaceEmoji, Console.replaceEmoji, Text.splitOn_append_of_not_mem h hSplit, hSplit]
  exact List.append_assoc u first _

theorem shown_plain_append {u : Text} (h : IsPlain u) (hColon : ':' ∉ u) (t : Text) :
    shown (u ++ t) = u ++ shown t := by
  rw [shown, dropEscapes_plain_append h, replaceEmoji_append hColon, shown]

/-- Plain text without colons shows itself in front of what follows. -/
theorem shownFrom_plain_append {u : Text} (h : IsPlain u) (hColon : ':' ∉ u) (stack : List Text)
    (before : Text) (segments : List Text) :
    shownFrom stack (u ++ before) segments = (shownFrom stack before segments).map (u ++ ·) := by
  have hSlashes := backslashes_plain_append h
  induction segments generalizing before with
  | nil =>
    rw [shownFrom_nil, shownFrom_nil, shown_plain_append h hColon, Option.map_some]
  | cons segment segments ih =>
    cases hTag : tag? segment with
    | none => rw [shownFrom_none hTag, shownFrom_none hTag, List.append_assoc, ih]
    | some found =>
      obtain ⟨body, rest⟩ := found
      by_cases hEven : backslashes before % 2 = 0
      · rcases tagStep_or_stuck stack body with ⟨next, hStep⟩ | hStuck
        · rw [shownFrom_tag hTag (by rwa [hSlashes]) hStep, shownFrom_tag hTag hEven hStep,
            hSlashes, trimSlashes_plain_append h, shown_plain_append h hColon, Option.map_map]
          simp [Function.comp_def]
        · rw [shownFrom_stuck hTag (by rwa [hSlashes]) hStuck, shownFrom_stuck hTag hEven hStuck,
            Option.map_none]
      · rw [shownFrom_escaped hTag (by rwa [hSlashes]), shownFrom_escaped hTag hEven, hSlashes,
          trimSlashes_plain_append h, shown_plain_append h hColon, Option.map_map]
        simp [Function.comp_def]

theorem shownIn_plain_append {u : Text} (h : IsPlain u) (hColon : ':' ∉ u) (stack : List Text)
    (t : Text) : shownIn stack (u ++ t) = (shownIn stack t).map (u ++ ·) := by
  obtain ⟨before, segments, hSplit, -⟩ := Text.exists_pieces '[' t
  have hWhole := Text.splitOn_append_of_not_mem h.open_notMem hSplit
  rw [shownIn_of_splitOn hSplit, shownIn_of_splitOn hWhole, shownFrom_plain_append h hColon]

theorem shownIn_of_plain {u : Text} (h : IsPlain u) (hColon : ':' ∉ u) (stack : List Text) :
    shownIn stack u = some u := by
  have hAppend := shownIn_plain_append h hColon stack []
  have hEmpty : shownIn stack [] = some [] := rfl
  rwa [hEmpty, Option.map_some, List.append_nil] at hAppend

/-- A tag shows nothing and leaves its step to what follows. -/
theorem shownIn_tag {stack next : List Text} {u body : Text} (hu : IsPlain u) (hBody : IsTag body)
    (hOpen : '[' ∉ body) (hStep : TagStep stack body next) (t : Text) :
    shownIn stack (u ++ '[' :: (body ++ ']' :: t)) = (shownIn next t).map (shown u ++ ·) := by
  have hInner : '[' ∉ body ++ [']'] := by simpa using hOpen
  have hNone : backslashes u = 0 := backslashes_of_plain hu
  obtain ⟨before, segments, hSplit, -⟩ := Text.exists_pieces '[' t
  have hWhole : (u ++ '[' :: (body ++ ']' :: t)).splitOn '[' =
      u :: (body ++ ']' :: before) :: segments := by
    have hRest := Text.splitOn_append_of_not_mem hInner hSplit
    rw [List.splitOn_append_cons_self_of_not_mem hu.open_notMem, List.append_cons, hRest]
    simp
  rw [shownIn_of_splitOn hWhole, shownIn_of_splitOn hSplit,
    shownFrom_tag (tag?_eq_some_iff.mpr ⟨rfl, hBody⟩) (by rw [hNone]) hStep,
    trimSlashes_of_plain hu, hNone]
  rfl

/-! ## What is shown of uncoded text -/

theorem dropEscapes_sublist (t : Text) : (dropEscapes t).Sublist t := by
  fun_induction dropEscapes t with
  | case1 rest ih => exact (ih.cons_cons '[').cons '\\'
  | case2 c rest _ ih => exact ih.cons_cons c
  | case3 => exact .slnil

theorem shown_sublist {t : Text} (h : Uncoded t) : (shown t).Sublist t := by
  rw [shown_of_uncoded h]
  exact dropEscapes_sublist t

theorem length_shown_le {t : Text} (h : Uncoded t) : (shown t).length ≤ t.length :=
  (shown_sublist h).length_le

/-- A text at its first tag. -/
theorem append_flatMap_of_tag {segment body rest : Text} (h : tag? segment = some (body, rest))
    (before : Text) (segments : List Text) :
    before ++ (segment :: segments).flatMap ('[' :: ·) =
      trimSlashes before ++ (List.replicate (backslashes before) '\\' ++
        ('[' :: (body ++ [']']) ++ (rest ++ segments.flatMap ('[' :: ·)))) := by
  obtain ⟨rfl, -⟩ := tag?_eq_some_iff.mp h
  rw [← List.append_assoc (trimSlashes before), trimSlashes_append]
  simp

theorem append_flatMap_of_none (before segment : Text) (segments : List Text) :
    before ++ (segment :: segments).flatMap ('[' :: ·) =
      before ++ '[' :: segment ++ segments.flatMap ('[' :: ·) := by
  simp

theorem uncoded_of_tag {before body rest : Text} {n : Nat}
    (h : Uncoded (before ++ (List.replicate n '\\' ++ ('[' :: (body ++ [']']) ++ rest)))) :
    Uncoded before ∧ Uncoded ('[' :: (body ++ [']'])) ∧ Uncoded rest := by
  refine ⟨h.part (List.prefix_append _ _).isInfix, h.part ?_, h.part ?_⟩
  · exact ⟨before ++ List.replicate n '\\', rest, by simp⟩
  · exact ⟨before ++ (List.replicate n '\\' ++ '[' :: (body ++ [']'])), [], by simp⟩

/-- Of a text at its first tag, less than all is shown up to the end of the tag. -/
theorem exists_of_shownFrom_tag {stack : List Text} {before segment body rest s : Text}
    {segments : List Text} (hTag : tag? segment = some (body, rest))
    (hCodes : Uncoded ('[' :: (body ++ [']'])))
    (h : shownFrom stack before (segment :: segments) = some s) :
    ∃ next half mark t, shownFrom next rest segments = some t ∧
      s = shown (trimSlashes before) ++ (List.replicate half '\\' ++ (mark ++ t)) ∧
      half ≤ backslashes before ∧ mark.Sublist ('[' :: (body ++ [']'])) ∧
      half + mark.length < backslashes before + ('[' :: (body ++ [']'])).length := by
  by_cases hEven : backslashes before % 2 = 0
  · rcases tagStep_or_stuck stack body with ⟨next, hStep⟩ | hStuck
    · rw [shownFrom_tag hTag hEven hStep] at h
      obtain ⟨t, ht, rfl⟩ := Option.map_eq_some_iff.mp h
      -- The tag itself is not shown.
      refine ⟨next, _, [], t, ht, rfl, by omega, List.nil_sublist _, ?_⟩
      simp only [List.length_nil, List.length_cons]
      omega
    · rw [shownFrom_stuck hTag hEven hStuck] at h
      cases h
  · -- The tag is shown, but the backslash that is left over is not.
    rw [shownFrom_escaped hTag hEven] at h
    obtain ⟨t, ht, rfl⟩ := Option.map_eq_some_iff.mp h
    have hMark := length_shown_le hCodes
    exact ⟨stack, _, _, t, ht, rfl, by omega, shown_sublist hCodes, by omega⟩

/-- Nothing is shown of a text but what stands in it. -/
theorem sublist_of_shownFrom {stack : List Text} {before s : Text} {segments : List Text}
    (hCodes : Uncoded (before ++ segments.flatMap ('[' :: ·)))
    (h : shownFrom stack before segments = some s) :
    s.Sublist (before ++ segments.flatMap ('[' :: ·)) := by
  induction segments generalizing stack before s with
  | nil =>
    rw [shownFrom_nil] at h
    cases h
    rw [List.flatMap_nil, List.append_nil] at hCodes ⊢
    exact shown_sublist hCodes
  | cons segment segments ih =>
    cases hTag : tag? segment with
    | none =>
      rw [shownFrom_none hTag] at h
      rw [append_flatMap_of_none] at hCodes ⊢
      exact ih hCodes h
    | some found =>
      obtain ⟨body, rest⟩ := found
      rw [append_flatMap_of_tag hTag] at hCodes ⊢
      obtain ⟨hBefore, hBody, hRest⟩ := uncoded_of_tag hCodes
      obtain ⟨next, half, mark, t, ht, rfl, hHalf, hMark, -⟩ :=
        exists_of_shownFrom_tag hTag hBody h
      have hSlashes := (List.replicate_sublist_replicate '\\').mpr hHalf
      exact (shown_sublist hBefore).append (hSlashes.append (hMark.append (ih hRest ht)))

/-- With a tag in it, not all of a text is shown. -/
theorem tagless_of_shownFrom {stack : List Text} {before : Text} {segments : List Text}
    (hCodes : Uncoded (before ++ segments.flatMap ('[' :: ·))) (hBefore : Tagless before)
    (hSegments : ∀ segment ∈ segments, '[' ∉ segment)
    (h : shownFrom stack before segments = some (before ++ segments.flatMap ('[' :: ·))) :
    Tagless (before ++ segments.flatMap ('[' :: ·)) := by
  induction segments generalizing before with
  | nil => rwa [List.flatMap_nil, List.append_nil]
  | cons segment segments ih =>
    rw [List.forall_mem_cons] at hSegments
    cases hTag : tag? segment with
    | none =>
      rw [shownFrom_none hTag] at h
      rw [append_flatMap_of_none] at hCodes h ⊢
      exact ih hCodes (.bracket hBefore hSegments.1 hTag) hSegments.2 h
    | some found =>
      obtain ⟨body, rest⟩ := found
      exfalso
      rw [append_flatMap_of_tag hTag] at hCodes h
      obtain ⟨hTrimmed, hBody, hRest⟩ := uncoded_of_tag hCodes
      obtain ⟨next, half, mark, t, ht, hEq, -, -, hLess⟩ := exists_of_shownFrom_tag hTag hBody h
      have hFirst := length_shown_le hTrimmed
      have hLast := (sublist_of_shownFrom hRest ht).length_le
      have hLength := congrArg List.length hEq
      simp only [List.length_append, List.length_replicate] at hLength hLast hLess
      omega

/-! ## Unmarked text -/

/-- No bracket of the text begins a tag, and none has a backslash in front. -/
structure Unmarked (t : Text) : Prop where
  untagged : ∀ u v, t = u ++ '[' :: v → ¬ OpensTag v
  unescaped : ¬ ['\\', '['] <:+: t

theorem sublist_of_shownIn {stack : List Text} {t s : Text} (hCodes : Uncoded t)
    (h : shownIn stack t = some s) : s.Sublist t := by
  obtain ⟨before, segments, hSplit, -, -, hWhole⟩ := Text.exists_pieces '[' t
  rw [shownIn_of_splitOn hSplit] at h
  rw [hWhole] at hCodes ⊢
  exact sublist_of_shownFrom hCodes h

theorem tagless_of_shownIn {stack : List Text} {t : Text} (hCodes : Uncoded t)
    (h : shownIn stack t = some t) : Tagless t := by
  obtain ⟨before, segments, hSplit, hBefore, hSegments, hWhole⟩ := Text.exists_pieces '[' t
  rw [shownIn_of_splitOn hSplit] at h
  rw [hWhole] at hCodes h ⊢
  exact tagless_of_shownFrom hCodes (.text hBefore) hSegments h

theorem Tagless.shownIn_eq {t : Text} (h : Tagless t) (stack : List Text) :
    shownIn stack t = some (shown t) := by
  rw [shownIn, h.piecesFrom_eq, toOption_plain]
  simp [renderPieces, Except.toOption]

/-- Of a text without emoji codes, all is shown exactly if it is unmarked. -/
theorem shownIn_eq_self_iff {stack : List Text} {t : Text} (hCodes : Uncoded t) :
    shownIn stack t = some t ↔ Unmarked t := by
  constructor
  · intro h
    have hTagless : Tagless t := tagless_of_shownIn hCodes h
    have hShown : shown t = t := by
      rw [hTagless.shownIn_eq] at h
      exact Option.some.inj h
    rw [shown_of_uncoded hCodes] at hShown
    exact ⟨tagless_iff.mp hTagless, dropEscapes_eq_self_iff.mp hShown⟩
  · rintro ⟨hUntagged, hUnescaped⟩
    rw [(tagless_iff.mpr hUntagged).shownIn_eq, shown_of_uncoded hCodes,
      dropEscapes_eq_self_iff.mpr hUnescaped]

end Markup

end Tabletop
