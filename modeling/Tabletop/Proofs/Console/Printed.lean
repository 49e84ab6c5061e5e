import Tabletop.Console.Print
import Tabletop.Proofs.Console.Shown

/-!
# Printed text

A console that understands markup drops some controls of a text and puts spaces for its tabs. A text
without controls is printed as it is shown, with a line feed behind it (`Console.print_of_shownIn`).
-/

namespace Tabletop

namespace Text

/-- The control characters. -/
def isControl (c : Char) : Bool := c.toNat < 0x20 || 0x7f ≤ c.toNat && c.toNat < 0xa0

/-- No control stands in the text. -/
def ControlFree (t : Text) : Prop := ∀ c ∈ t, isControl c = false

instance (t : Text) : Decidable (ControlFree t) := List.decidableBAll _ t

theorem ControlFree.notMem {t : Text} (h : ControlFree t) {c : Char} (hc : isControl c = true) :
    c ∉ t := by
  intro hMem
  rw [h c hMem] at hc
  cases hc

theorem ControlFree.of_subset {s t : Text} (h : ControlFree t) (hPart : s ⊆ t) : ControlFree s :=
  fun c hc => h c (hPart hc)

/-- The pieces between line feeds, each ended by one. -/
theorem unlines_splitOn (t : Text) : unlines (t.splitOn '\n') = t ++ ['\n'] := by
  have hJoin : ∀ (first : Text) (others : List Text),
      unlines (first :: others) = first ++ others.flatMap ('\n' :: ·) ++ ['\n'] := by
    intro first others
    induction others generalizing first with
    | nil => simp
    | cons next others ih => rw [unlines_cons, ih]; simp
  obtain ⟨first, others, hSplit, -, -, hWhole⟩ := exists_pieces '\n' t
  rw [hSplit, hJoin, ← hWhole]

end Text

namespace Markup

theorem isControl_of_isDropped {c : Char} (h : isDropped c = true) : Text.isControl c = true := by
  simp only [isDropped, List.mem_cons, List.not_mem_nil, or_false, decide_eq_true_eq] at h
  rcases h with rfl | rfl | rfl | rfl | rfl <;> decide

theorem render_of_shownIn {t shown : Text} (hShown : shownIn [] t = some shown)
    (hKept : shown.filter (!isDropped ·) = shown) : render t = .ok shown := by
  have hRender := toOption_render t
  rw [hShown, Option.map_some, hKept] at hRender
  cases hResult : render t with
  | error cause =>
    rw [hResult] at hRender
    cases hRender
  | ok result =>
    rw [hResult] at hRender
    cases hRender
    rfl

end Markup

/-- A console lets through what is no control. -/
theorem Text.ControlFree.filter_isDropped {t : Text} (h : t.ControlFree) :
    t.filter (!Markup.isDropped ·) = t := by
  rw [List.filter_eq_self]
  intro c hc
  rw [Bool.not_eq_true', ← Bool.not_eq_true]
  exact fun hDropped => h.notMem (Markup.isControl_of_isDropped hDropped) hc

namespace Console

theorem expandTabs_of_notMem {line : Text} (h : '\t' ∉ line) : expandTabs line = line := by
  rw [expandTabs, List.splitOn_eq_singleton h, joinTabs]

/-- Without tabs, lines are printed as they are. -/
theorem unlines_expandTabs {t : Text} (h : '\t' ∉ t) :
    Text.unlines ((t.splitOn '\n').map expandTabs) = t ++ ['\n'] := by
  have hLine : ∀ line ∈ t.splitOn '\n', expandTabs line = id line := by
    intro line hLine
    apply expandTabs_of_notMem
    intro hTab
    exact h ((Text.exists_mem_splitOn (by decide)).mp ⟨line, hLine, hTab⟩)
  rw [List.map_congr_left hLine, List.map_id, Text.unlines_splitOn]

/-- A message whose parameters are not refused is printed as it is shown, if neither tabs nor
controls that are dropped stand in that. -/
theorem print_of_shownIn {parameters : Markup.Parameters} {message shown : Text}
    (hTaken : parameters.refusal? message = none)
    (hShown : Markup.shownIn [] message = some shown)
    (hKept : shown.filter (!Markup.isDropped ·) = shown) (hTab : '\t' ∉ shown) :
    print parameters true message = .ok (shown ++ ['\n']) := by
  rw [print, if_pos rfl, hTaken, Markup.render_of_shownIn hShown hKept]
  dsimp only
  rw [Except.map, unlines_expandTabs hTab]

/-- A message that cannot be shown is not printed. -/
theorem print_of_shownIn_none (parameters : Markup.Parameters) {message : Text}
    (hShown : Markup.shownIn [] message = none) :
    ∃ cause, print parameters true message = .error cause := by
  have hRender := Markup.toOption_render message
  rw [hShown, Option.map_none] at hRender
  rw [print, if_pos rfl]
  cases parameters.refusal? message with
  | some cause => exact ⟨cause, rfl⟩
  | none =>
    cases hResult : Markup.render message with
    | error cause => exact ⟨cause, rfl⟩
    | ok result =>
      rw [hResult] at hRender
      cases hRender

end Console

end Tabletop
