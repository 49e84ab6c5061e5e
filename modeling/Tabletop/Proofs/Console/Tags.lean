import Mathlib.Data.List.TakeWhile
import Tabletop.Console.Markup
import Tabletop.Proofs.Text.Split

/-!
# The tags of marked-up text

Whether marked-up text can be shown depends on its tags alone. They are read in order, each while
the styles opened before it and not yet closed are open: a tag is read by one `TagStep`, or the
reading is `Stuck` at it. A text can be shown exactly if the reading of its tags gets stuck nowhere
(`render_eq_error_iff`).

`tags_plain_append` and `tags_bracket` give the tags of a text from left to right.
-/

namespace Tabletop

namespace Markup

/-! ## Reading one tag -/

/-- What a tag does to the open styles, of which the last stands first. -/
inductive TagStep : List Text → Text → List Text → Prop
  | closesLast {stack : List Text} {style body name : Text} (hName : tagName body = '/' :: name)
      (hBlank : name.strip = []) :
      TagStep (style :: stack) body stack
  | closes {stack : List Text} {style body name : Text} (hName : tagName body = '/' :: name)
      (hNamed : name.strip ≠ []) (hStyle : styleOf name.strip = .ok style)
      (hOpen : style ∈ stack) :
      TagStep stack body (stack.erase style)
  | opens {stack : List Text} {style body : Text} (hName : ∀ name, tagName body ≠ '/' :: name)
      (hStyle : styleOf (tagName body) = .ok style) :
      TagStep stack body (style :: stack)

/-- Why a tag cannot be read while the styles in a list are open: it closes a style that is not
open, or it names a color that has components which are no numbers. -/
inductive Stuck : List Text → Text → Prop
  | nothingOpen {body name : Text} (hName : tagName body = '/' :: name)
      (hBlank : name.strip = []) :
      Stuck [] body
  | notOpen {stack : List Text} {style body name : Text} (hName : tagName body = '/' :: name)
      (hNamed : name.strip ≠ []) (hStyle : styleOf name.strip = .ok style)
      (hClosed : style ∉ stack) :
      Stuck stack body
  | badClosing {stack : List Text} {body name : Text} {cause : Fault}
      (hName : tagName body = '/' :: name) (hNamed : name.strip ≠ [])
      (hStyle : styleOf name.strip = .error cause) :
      Stuck stack body
  | badOpening {stack : List Text} {body : Text} {cause : Fault}
      (hName : ∀ name, tagName body ≠ '/' :: name)
      (hStyle : styleOf (tagName body) = .error cause) :
      Stuck stack body

theorem tagStep_or_stuck (stack : List Text) (body : Text) :
    (∃ next, TagStep stack body next) ∨ Stuck stack body := by
  by_cases hClosing : ∃ name, tagName body = '/' :: name
  · obtain ⟨name, hName⟩ := hClosing
    by_cases hBlank : Text.strip name = []
    · cases stack with
      | nil => exact Or.inr (.nothingOpen hName hBlank)
      | cons style stack => exact Or.inl ⟨stack, .closesLast hName hBlank⟩
    · cases hStyle : styleOf (Text.strip name) with
      | error cause => exact Or.inr (.badClosing hName hBlank hStyle)
      | ok style =>
        by_cases hOpen : style ∈ stack
        · exact Or.inl ⟨_, .closes hName hBlank hStyle hOpen⟩
        · exact Or.inr (.notOpen hName hBlank hStyle hOpen)
  · have hName : ∀ name, tagName body ≠ '/' :: name := by
      intro name h
      exact hClosing ⟨name, h⟩
    cases hStyle : styleOf (tagName body) with
    | error cause => exact Or.inr (.badOpening hName hStyle)
    | ok style => exact Or.inl ⟨_, .opens hName hStyle⟩

/-- A tag that begins with a slash cannot be read before a style has been opened. -/
theorem stuck_nil {body name : Text} (hName : tagName body = '/' :: name) : Stuck [] body := by
  rcases tagStep_or_stuck [] body with ⟨next, hStep⟩ | hStuck
  · cases hStep with
    | closes _ _ _ hOpen => cases hOpen
    | opens hOther _ => exact absurd hName (hOther name)
  · exact hStuck

theorem renderPieces_of_tagStep {stack next : List Text} {body : Text}
    (h : TagStep stack body next) (position : Nat) (others : List Piece) :
    renderPieces stack (.tag position body :: others) = renderPieces next others := by
  cases h with
  | closesLast hName hBlank => simp [renderPieces, hName, hBlank]
  | closes hName hNamed hStyle hOpen =>
    simp [renderPieces, hName, hNamed, hStyle, hOpen, bind, Except.bind]
  | opens hName hStyle =>
    simp [renderPieces, hStyle, bind, Except.bind]

theorem renderPieces_of_stuck {stack : List Text} {body : Text} (h : Stuck stack body)
    (position : Nat) (others : List Piece) :
    ∃ cause, renderPieces stack (.tag position body :: others) = .error cause := by
  cases h with
  | nothingOpen hName hBlank => exact ⟨.nothingOpen position, by simp [renderPieces, hName, hBlank]⟩
  | notOpen hName hNamed hStyle hClosed =>
    refine ⟨.notOpen body position, ?_⟩
    simp [renderPieces, hName, hNamed, hStyle, hClosed, bind, Except.bind]
  | @badClosing _ _ _ cause hName hNamed hStyle =>
    refine ⟨cause, ?_⟩
    simp [renderPieces, hName, hNamed, hStyle, bind, Except.bind]
  | @badOpening _ _ cause hName hStyle =>
    refine ⟨cause, ?_⟩
    simp [renderPieces, hStyle, bind, Except.bind]

/-! ## Reading all tags -/

/-- The reading of some tags gets stuck at one of them. -/
inductive StuckIn : List Text → List Text → Prop
  | here {stack bodies : List Text} {body : Text} (h : Stuck stack body) :
      StuckIn stack (body :: bodies)
  | later {stack next bodies : List Text} {body : Text} (hStep : TagStep stack body next)
      (h : StuckIn next bodies) :
      StuckIn stack (body :: bodies)

/-- A text has a tag that cannot be read. -/
def HasStuckTag (t : Text) : Prop := StuckIn [] (tags t)

theorem renderPieces_eq_error_iff {stack : List Text} {pieces : List Piece} :
    (∃ cause, renderPieces stack pieces = .error cause) ↔
      StuckIn stack (pieces.filterMap Piece.body?) := by
  induction pieces generalizing stack with
  | nil =>
    constructor
    · rintro ⟨cause, h⟩
      cases h
    · intro h
      cases h
  | cons piece pieces ih =>
    cases piece with
    | plain text =>
      rw [List.filterMap_cons_none (Piece.body?_plain text), ← ih, renderPieces]
      cases renderPieces stack pieces <;> simp [Except.map]
    | tag position body =>
      rw [List.filterMap_cons_some (Piece.body?_tag position body)]
      constructor
      · intro h
        rcases tagStep_or_stuck stack body with ⟨next, hStep⟩ | hStuck
        · rw [renderPieces_of_tagStep hStep] at h
          exact .later hStep (ih.mp h)
        · exact .here hStuck
      · intro h
        cases h with
        | here hStuck => exact renderPieces_of_stuck hStuck position pieces
        | later hStep hLater =>
          rw [renderPieces_of_tagStep hStep]
          exact ih.mpr hLater

theorem render_eq_error_iff {t : Text} : (∃ cause, render t = .error cause) ↔ HasStuckTag t := by
  unfold HasStuckTag tags
  rw [← renderPieces_eq_error_iff, render]
  cases renderPieces [] (piecesOf t) <;> simp [Except.map]

/-- A tag that is read leaves its step to the tags after it, and nothing else. -/
theorem stuckIn_cons_iff {stack next bodies : List Text} {body : Text}
    (hStep : TagStep stack body next) : StuckIn stack (body :: bodies) ↔ StuckIn next bodies := by
  -- The tags are those of a list of pieces, where `renderPieces` settles which step is taken.
  have hTags : ∀ list : List Text, (list.map (Piece.tag 0)).filterMap Piece.body? = list := by
    intro list
    rw [List.filterMap_map]
    exact List.filterMap_some
  have hPieces :
      (∃ cause, renderPieces stack ((body :: bodies).map (Piece.tag 0)) = .error cause) ↔
        ∃ cause, renderPieces next (bodies.map (Piece.tag 0)) = .error cause := by
    rw [List.map_cons, renderPieces_of_tagStep hStep]
  rwa [renderPieces_eq_error_iff, renderPieces_eq_error_iff, hTags, hTags] at hPieces

/-! ## One tag of a text -/

/-- What may stand between the brackets of a tag. -/
structure IsTag (body : Text) : Prop where
  starts : ∃ c, body.head? = some c ∧ startsTag c = true
  closed : ']' ∉ body

theorem tag?_eq_some_iff {t body rest : Text} :
    tag? t = some (body, rest) ↔ t = body ++ ']' :: rest ∧ IsTag body := by
  constructor
  · intro h
    unfold tag? at h
    split at h
    · rename_i c d after hHead hDrop
      split at h
      · rename_i hStart
        cases h
        have hd : d = ']' := by
          have hNot := List.head?_dropWhile_not (fun c => decide (c ≠ ']')) t
          rw [hDrop] at hNot
          simpa using hNot
        subst hd
        have hWhole : t = t.takeWhile (· ≠ ']') ++ ']' :: rest := by
          rw [← hDrop, List.takeWhile_append_dropWhile]
        have hNe : c ≠ ']' := by
          rintro rfl
          exact absurd hStart (by decide)
        refine ⟨hWhole, ⟨c, ?_, hStart⟩, fun hMem => ?_⟩
        · rw [List.head?_takeWhile, hHead]
          simp [hNe]
        · simpa using List.mem_takeWhile_imp hMem
      · cases h
    · cases h
  · rintro ⟨rfl, ⟨c, hHead, hStart⟩, hClosed⟩
    have hAll : ∀ c ∈ body, decide (c ≠ ']') = true := by
      intro d hd
      rw [decide_eq_true_eq]
      rintro rfl
      exact hClosed hd
    have hHead : (body ++ ']' :: rest).head? = some c := by
      simp [hHead]
    unfold tag?
    rw [hHead, List.dropWhile_append_of_pos hAll, List.takeWhile_append_of_pos hAll]
    simp [hStart]

/-! ## The tags of a text, from left to right -/

/-- The tags of a text that is given as in `pieces`. -/
def tagsAfter (before : Text) : List Text → List Text
  | [] => []
  | segment :: segments =>
    match tag? segment with
    | none => tagsAfter (before ++ '[' :: segment) segments
    | some (body, rest) =>
      if backslashes before % 2 = 0 then body :: tagsAfter rest segments
      else tagsAfter rest segments

theorem tagsAfter_of_none {before segment : Text} {segments : List Text}
    (h : tag? segment = none) :
    tagsAfter before (segment :: segments) = tagsAfter (before ++ '[' :: segment) segments := by
  rw [tagsAfter, h]

theorem filterMap_pieces (position : Nat) (before : Text) (segments : List Text) :
    (pieces position before segments).filterMap Piece.body? = tagsAfter before segments := by
  induction segments generalizing position before with
  | nil => rfl
  | cons segment segments ih =>
    unfold pieces tagsAfter
    cases tag? segment with
    | none => exact ih position _
    | some found =>
      obtain ⟨body, rest⟩ := found
      by_cases hEven : backslashes before % 2 = 0
      · simp [List.filterMap_cons, hEven, ih]
      · simp [List.filterMap_cons, hEven, ih]

theorem tags_of_splitOn {t before : Text} {segments : List Text}
    (h : t.splitOn '[' = before :: segments) : tags t = tagsAfter before segments := by
  rw [tags, piecesOf, h]
  exact filterMap_pieces 0 before segments

/-- A text without an opening bracket has no tags. -/
theorem tags_of_not_mem {t : Text} (h : '[' ∉ t) : tags t = [] :=
  tags_of_splitOn (List.splitOn_eq_singleton h)

theorem backslashes_append_cons {c : Char} (hc : c ≠ '\\') (u v : Text) :
    backslashes (u ++ c :: v) = backslashes v := by
  have hReverse : (u ++ c :: v).reverse = v.reverse ++ c :: u.reverse := by simp
  unfold backslashes
  rw [hReverse, List.takeWhile_append]
  split
  · rename_i hAll
    simp [hc, hAll]
  · rfl

/-- Of what comes before the brackets, only the backslashes at its end matter. -/
theorem tagsAfter_congr {before other : Text} (h : backslashes before = backslashes other)
    (segments : List Text) : tagsAfter before segments = tagsAfter other segments := by
  induction segments generalizing before other with
  | nil => rfl
  | cons segment segments ih =>
    have hNext :
        backslashes (before ++ '[' :: segment) = backslashes (other ++ '[' :: segment) := by
      rw [backslashes_append_cons (by decide), backslashes_append_cons (by decide)]
    unfold tagsAfter
    rw [h, ih hNext]

/-- A text holds neither opening brackets nor backslashes. -/
def IsPlain (t : Text) : Prop := ∀ c ∈ t, c ≠ '[' ∧ c ≠ '\\'

theorem all_eq_true_iff_isPlain {t : Text} :
    (t.all fun c => c != '[' && c != '\\') = true ↔ IsPlain t := by
  simp [IsPlain]

instance (t : Text) : Decidable (IsPlain t) := decidable_of_iff _ all_eq_true_iff_isPlain

/-- Plain text does not change the tags of what follows it. -/
theorem tags_plain_append {u : Text} (h : IsPlain u) (t : Text) :
    tags (u ++ t) = tags t := by
  have hOpen : '[' ∉ u := fun hMem => (h '[' hMem).1 rfl
  obtain ⟨before, segments, hSplit, -⟩ := Text.exists_pieces '[' t
  rw [tags_of_splitOn hSplit, tags_of_splitOn (Text.splitOn_append_of_not_mem hOpen hSplit)]
  apply tagsAfter_congr
  rcases u.eq_nil_or_concat with rfl | ⟨v, c, rfl⟩
  · rfl
  · have hc : c ≠ '\\' := (h c (by simp)).2
    rw [List.concat_append, backslashes_append_cons hc]

theorem tags_of_plain {t : Text} (h : IsPlain t) : tags t = [] :=
  tags_of_not_mem fun hMem => (h '[' hMem).1 rfl

theorem not_hasStuckTag_of_plain {t : Text} (h : IsPlain t) : ¬ HasStuckTag t := by
  rw [HasStuckTag, tags_of_plain h]
  rintro ⟨⟩

/-- A tag that holds no opening bracket comes before the tags of what follows it. -/
theorem tags_bracket {body : Text} (h : IsTag body) (hOpen : '[' ∉ body) (t : Text) :
    tags ('[' :: (body ++ ']' :: t)) = body :: tags t := by
  have hInner : '[' ∉ body ++ [']'] := by simpa using hOpen
  obtain ⟨before, segments, hSplit, -⟩ := Text.exists_pieces '[' t
  have hWhole : ('[' :: (body ++ ']' :: t)).splitOn '[' =
      [] :: (body ++ ']' :: before) :: segments := by
    have hRest := Text.splitOn_append_of_not_mem hInner hSplit
    rw [List.append_cons, List.splitOn_cons_eq_if_modifyHead, hRest]
    simp
  rw [tags_of_splitOn hSplit, tags_of_splitOn hWhole, tagsAfter, tag?_eq_some_iff.mpr ⟨rfl, h⟩]
  rfl

/-! ## Well-formed markup around a text -/

/-- A text shown in a style. -/
def emphasized (style t : Text) : Text :=
  '[' :: (style ++ ']' :: (t ++ '[' :: ('/' :: (style ++ [']']))))

/-- The style is opened by its own name and closed by it. -/
structure IsStyle (style : Text) : Prop where
  tag : IsTag style
  unopened : '[' ∉ style
  opens : TagStep [] style [style]
  closes : TagStep [style] ('/' :: style) []

theorem tags_emphasized_append {style t : Text} (hStyle : IsStyle style) (ht : IsPlain t)
    (u : Text) : tags (emphasized style t ++ u) = style :: ('/' :: style) :: tags u := by
  have hTag : IsTag ('/' :: style) := by
    refine ⟨⟨'/', rfl, by decide⟩, ?_⟩
    simpa using hStyle.tag.closed
  have hUnopened : '[' ∉ '/' :: style := by simpa using hStyle.unopened
  have hWhole : emphasized style t ++ u =
      '[' :: (style ++ ']' :: (t ++ '[' :: ('/' :: style ++ ']' :: u))) := by
    simp [emphasized]
  rw [hWhole, tags_bracket hStyle.tag hStyle.unopened, tags_plain_append ht,
    tags_bracket hTag hUnopened]

end Markup

end Tabletop
