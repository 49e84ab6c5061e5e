import Tabletop.Log
import Tabletop.Proofs.Text.Numeral
import Tabletop.Proofs.Text.Quoted
import Tabletop.Proofs.Text.Split

/-!
# Log lines are read in one way

A text in a field of a log line stands as it is only if it holds neither a space nor an equals sign
nor a quote, and a text between quotes ends at a quote that nothing in it can forge. So a log line
is the entry of one event with one series of fields only (`entry_inj`), whatever texts stand in
them, and it is a single line.
-/

namespace Tabletop

namespace Log

/-! ## Words and values -/

/-- Nothing in the text makes it stand between quotes. -/
def IsBare (t : Text) : Prop := ∀ c ∈ t, needsQuotes c = false

instance (t : Text) : Decidable (IsBare t) := List.decidableBAll _ t

/-- What can stand in a field: a bare text, or a text between quotes on one line. -/
inductive IsValue : Text → Prop
  | bare {t : Text} (h : IsBare t) : IsValue t
  | quoted {quote : Char} {inner : Text} (hQuote : quote ∈ Text.quotes)
      (hInner : Text.Escaped quote inner) (hFeed : '\n' ∉ inner) :
      IsValue (quote :: (inner ++ [quote]))

/-- Nothing, or a text that begins with a space. -/
def Ends (rest : Text) : Prop := ∀ c ∈ rest.head?, c = ' '

theorem needsQuotes_of_mem_quotes {quote : Char} (h : quote ∈ Text.quotes) :
    needsQuotes quote = true := by
  rcases Text.eq_of_mem_quotes h with rfl | rfl <;> rfl

theorem IsBare.feed_notMem {t : Text} (h : IsBare t) : '\n' ∉ t :=
  fun hFeed => absurd (h _ hFeed) (by decide)

theorem IsValue.feed_notMem {t : Text} (h : IsValue t) : '\n' ∉ t := by
  cases h with
  | bare h => exact h.feed_notMem
  | @quoted quote inner hQuote hInner hFeed =>
    have hNot : '\n' ≠ quote := by
      rintro rfl
      exact absurd hQuote (by decide)
    simp [hNot, hFeed]

/-- A bare text ends where the first character stands that would need quotes. -/
theorem IsBare.append_inj {s t u v : Text} (hs : IsBare s) (ht : IsBare t)
    (hu : ∀ c ∈ u.head?, needsQuotes c = true) (hv : ∀ c ∈ v.head?, needsQuotes c = true)
    (h : s ++ u = t ++ v) : s = t ∧ u = v := by
  have hTake {s u : Text} (hs : IsBare s) (hu : ∀ c ∈ u.head?, needsQuotes c = true) :
      (s ++ u).takeWhile (!needsQuotes ·) = s := by
    have hRest : u.takeWhile (!needsQuotes ·) = [] := by
      cases u with
      | nil => rfl
      | cons c u => exact List.takeWhile_cons_of_neg (by simp [hu c rfl])
    rw [List.takeWhile_append_of_pos fun c hc => by rw [hs c hc]; rfl, hRest, List.append_nil]
  have hSame : s = t := by rw [← hTake hs hu, h, hTake ht hv]
  subst hSame
  exact ⟨rfl, List.append_cancel_left h⟩

theorem Ends.needsQuotes {rest : Text} (h : Ends rest) :
    ∀ c ∈ rest.head?, needsQuotes c = true := by
  intro c hc
  rw [h c hc]
  decide

/-- No bare text can be taken for one between quotes. -/
theorem IsBare.append_ne_quote {s u v : Text} (hs : IsBare s) (hu : Ends u) {quote : Char}
    (hQuote : quote ∈ Text.quotes) : s ++ u ≠ quote :: v := by
  intro h
  cases s with
  | nil =>
    have hSpace : quote = ' ' := hu quote (by rw [← List.nil_append u, h]; rfl)
    subst hSpace
    exact absurd hQuote (by decide)
  | cons c s =>
    obtain ⟨rfl, -⟩ := List.cons.inj h
    have hBare := hs c List.mem_cons_self
    rw [needsQuotes_of_mem_quotes hQuote] at hBare
    cases hBare

/-- Where a value ends can be told from the value itself. -/
theorem IsValue.append_inj {s t u v : Text} (hs : IsValue s) (ht : IsValue t) (hu : Ends u)
    (hv : Ends v) (h : s ++ u = t ++ v) : s = t ∧ u = v := by
  cases hs with
  | bare hs =>
    cases ht with
    | bare ht => exact hs.append_inj ht hu.needsQuotes hv.needsQuotes h
    | quoted hQuote _ _ => exact absurd h (hs.append_ne_quote hu hQuote)
  | @quoted quote inner hQuote hInner _ =>
    cases ht with
    | bare ht => exact absurd h.symm (ht.append_ne_quote hv hQuote)
    | @quoted other others _ hOthers _ =>
      obtain ⟨rfl, hRest⟩ := List.cons.inj h
      have hSlash : quote ≠ '\\' := by
        rintro rfl
        exact absurd hQuote (by decide)
      have hSplit : inner ++ quote :: u = others ++ quote :: v := by simpa using hRest
      obtain ⟨rfl, hBehind⟩ := hInner.append_inj hSlash hOthers hSplit
      exact ⟨rfl, hBehind⟩

theorem isValue_ofText (t : Text) : IsValue (ofText t) := by
  unfold ofText
  split
  · obtain ⟨quote, hQuote, inner, hInner, hFeed, hQuoted⟩ := t.exists_quoted_eq
    rw [hQuoted]
    exact .quoted hQuote hInner hFeed
  · rename_i hNone
    refine .bare fun c hc => ?_
    rw [← Bool.not_eq_true]
    exact fun hNeeds => hNone (List.any_eq_true.mpr ⟨c, hc, hNeeds⟩)

theorem isValue_ofNat (n : Nat) : IsValue (ofNat n) := by
  refine .bare fun c hc => ?_
  rcases Numeral.mem_write hc with rfl | hDigit
  · decide
  · rw [← Bool.not_eq_true]
    intro hNeeds
    simp only [needsQuotes, List.mem_cons, List.not_mem_nil, or_false, decide_eq_true_eq] at hNeeds
    rcases hNeeds with rfl | rfl | rfl | rfl | rfl | rfl | rfl <;> exact absurd hDigit (by decide)

theorem isValue_ofBool (b : Bool) : IsValue (ofBool b) := by
  apply IsValue.bare
  cases b <;> decide

theorem isValue_kind (command : Command) : IsValue (kind command) := by
  apply IsValue.bare
  cases command with
  | place pose =>
    have hWord : IsBare "Place".toList := by decide
    exact hWord
  | _ => decide

/-! ## Fields -/

/-- A name and a value that can be told apart. -/
structure IsField (field : Field) : Prop where
  name : IsBare field.1
  value : IsValue field.2

/-- A field as it is written. -/
def fieldText (field : Field) : Text := field.1 ++ '=' :: field.2

theorem IsField.feed_notMem {field : Field} (h : IsField field) : '\n' ∉ fieldText field := by
  simp [fieldText, h.name.feed_notMem, h.value.feed_notMem]

theorem IsField.append_inj {field other : Field} (hField : IsField field) (hOther : IsField other)
    {u v : Text} (hu : Ends u) (hv : Ends v) (h : fieldText field ++ u = fieldText other ++ v) :
    field = other ∧ u = v := by
  have hEquals (w : Text) : ∀ c ∈ ('=' :: w).head?, needsQuotes c = true := by
    rintro c ⟨⟩
    decide
  simp only [fieldText, List.append_assoc, List.cons_append] at h
  obtain ⟨hName, hRest⟩ := hField.name.append_inj hOther.name (hEquals _) (hEquals _) h
  obtain ⟨hValue, hBehind⟩ :=
    hField.value.append_inj hOther.value hu hv (List.cons.inj hRest).2
  exact ⟨Prod.ext hName hValue, hBehind⟩

/-- Fields behind the first, each with the space in front of it. -/
def furtherText (fields : List Field) : Text := fields.flatMap (' ' :: fieldText ·)

theorem ends_furtherText (fields : List Field) : Ends (furtherText fields) := by
  cases fields with
  | nil => exact fun c hc => nomatch hc
  | cons field fields =>
    rintro c ⟨⟩
    rfl

theorem furtherText_inj {fields others : List Field} (hFields : ∀ field ∈ fields, IsField field)
    (hOthers : ∀ field ∈ others, IsField field) (h : furtherText fields = furtherText others) :
    fields = others := by
  induction fields generalizing others with
  | nil =>
    cases others with
    | nil => rfl
    | cons other others => cases h
  | cons field fields ih =>
    cases others with
    | nil => cases h
    | cons other others =>
      rw [List.forall_mem_cons] at hFields hOthers
      obtain ⟨rfl, hRest⟩ := hFields.1.append_inj hOthers.1 (ends_furtherText fields)
        (ends_furtherText others) (List.cons.inj h).2
      rw [ih hFields.2 hOthers.2 hRest]

/-- All fields of an entry. -/
def fieldsText (fields : List Field) : Text := [' '].intercalate (fields.map fieldText)

theorem fieldsText_cons (field : Field) (fields : List Field) :
    fieldsText (field :: fields) = fieldText field ++ furtherText fields := by
  induction fields generalizing field with
  | nil => simp [fieldsText, furtherText]
  | cons next fields ih =>
    have hNext : fieldsText (field :: next :: fields) =
        fieldText field ++ ' ' :: fieldsText (next :: fields) := by
      simp [fieldsText, List.intercalate_cons_cons]
    rw [hNext, ih]
    rfl

theorem fieldsText_inj {fields others : List Field} (hFields : ∀ field ∈ fields, IsField field)
    (hOthers : ∀ field ∈ others, IsField field) (h : fieldsText fields = fieldsText others) :
    fields = others := by
  have hSome (field : Field) (fields : List Field) : fieldsText (field :: fields) ≠ [] := by
    simp [fieldsText_cons, fieldText]
  cases fields with
  | nil =>
    cases others with
    | nil => rfl
    | cons other others => exact absurd h.symm (hSome other others)
  | cons field fields =>
    cases others with
    | nil => exact absurd h (hSome field fields)
    | cons other others =>
      rw [fieldsText_cons, fieldsText_cons] at h
      rw [List.forall_mem_cons] at hFields hOthers
      obtain ⟨rfl, hRest⟩ := hFields.1.append_inj hOthers.1 (ends_furtherText fields)
        (ends_furtherText others) h
      rw [furtherText_inj hFields.2 hOthers.2 hRest]

theorem feed_notMem_fieldsText {fields : List Field} (hFields : ∀ field ∈ fields, IsField field) :
    '\n' ∉ fieldsText fields := by
  rw [fieldsText, Text.mem_intercalate (by decide)]
  rintro ⟨piece, hPiece, hFeed⟩
  obtain ⟨field, hField, rfl⟩ := List.mem_map.mp hPiece
  exact (hFields field hField).feed_notMem hFeed

/-! ## Entries -/

theorem entry_eq (stamp event : Text) (fields : List Field) :
    entry stamp event fields = stamp ++ (" [debug    ] ".toList ++ (event ++
      (Text.spaces (30 - event.length) ++ (" [".toList ++ (loggerName ++
        ("] ".toList ++ fieldsText fields)))))) := by
  simp only [entry, Text.padRight, fieldsText, List.append_assoc]
  rfl

/-- An entry tells of one event and of one series of fields only. -/
theorem entry_inj {stamp event other : Text} {fields others : List Field} (hEvent : IsBare event)
    (hOther : IsBare other) (hFields : ∀ field ∈ fields, IsField field)
    (hOthers : ∀ field ∈ others, IsField field)
    (h : entry stamp event fields = entry stamp other others) :
    event = other ∧ fields = others := by
  have hSpace (n : Nat) (w : Text) : ∀ c ∈ (Text.spaces n ++ (" [".toList ++ w)).head?,
      needsQuotes c = true := by
    intro c hc
    have hFirst : (Text.spaces n ++ (" [".toList ++ w)).head? = some ' ' := by cases n <;> rfl
    rw [hFirst] at hc
    cases hc
    decide
  rw [entry_eq, entry_eq] at h
  have hBehind := List.append_cancel_left (List.append_cancel_left h)
  obtain ⟨rfl, hRest⟩ := hEvent.append_inj hOther (hSpace _ _) (hSpace _ _) hBehind
  have hTexts := List.append_cancel_left (List.append_cancel_left
    (List.append_cancel_left (List.append_cancel_left hRest)))
  exact ⟨rfl, fieldsText_inj hFields hOthers hTexts⟩

theorem feed_notMem_entry {stamp event : Text} {fields : List Field} (hStamp : '\n' ∉ stamp)
    (hEvent : IsBare event) (hFields : ∀ field ∈ fields, IsField field) :
    '\n' ∉ entry stamp event fields := by
  have hName : '\n' ∉ loggerName := by decide
  rw [entry_eq]
  simp [hStamp, hEvent.feed_notMem, Text.feed_notMem_spaces, hName, feed_notMem_fieldsText hFields]

/-- The line is the entry of the event with these fields, and of nothing else. -/
structure Tells (stamp line event : Text) (fields : List Field) : Prop where
  eq_entry : line = entry stamp event fields
  only : ∀ other others, IsBare other → (∀ field ∈ others, IsField field) →
    line = entry stamp other others → other = event ∧ others = fields

theorem tells_entry (stamp : Text) {event : Text} {fields : List Field} (hEvent : IsBare event)
    (hFields : ∀ field ∈ fields, IsField field) :
    Tells stamp (entry stamp event fields) event fields where
  eq_entry := rfl
  only _ _ hOther hOthers h := entry_inj hOther hEvent hOthers hFields h.symm

/-! ## Steps and runs -/

theorem isField_mk {name value : Text} (hName : IsBare name) (hValue : IsValue value) :
    IsField (name, value) := ⟨hName, hValue⟩

theorem isField_ignored (line : Text) (number : Nat) :
    ∀ field ∈ [("line".toList, ofText line), ("line_number".toList, ofNat number)],
      IsField field := by
  simp only [List.forall_mem_cons, List.not_mem_nil, false_implies, implies_true, and_true]
  exact ⟨isField_mk (by decide) (isValue_ofText line),
    isField_mk (by decide) (isValue_ofNat number)⟩

theorem isField_applied (command : Command) (number : Nat) (placed : Bool) :
    ∀ field ∈ [("command".toList, kind command), ("line_number".toList, ofNat number),
      ("placed".toList, ofBool placed)], IsField field := by
  simp only [List.forall_mem_cons, List.not_mem_nil, false_implies, implies_true, and_true]
  exact ⟨isField_mk (by decide) (isValue_kind command),
    isField_mk (by decide) (isValue_ofNat number),
    isField_mk (by decide) (isValue_ofBool placed)⟩

theorem isField_complete (lines ignored reports : Nat) :
    ∀ field ∈ [("ignored".toList, ofNat ignored), ("lines".toList, ofNat lines),
      ("reports".toList, ofNat reports)], IsField field := by
  simp only [List.forall_mem_cons, List.not_mem_nil, false_implies, implies_true, and_true]
  exact ⟨isField_mk (by decide) (isValue_ofNat ignored),
    isField_mk (by decide) (isValue_ofNat lines), isField_mk (by decide) (isValue_ofNat reports)⟩

theorem tells_ofStep_none (stamp : Text) {step : Step Text} (h : step.command = none) :
    Tells stamp (ofStep stamp step) "command.ignored".toList
      [("line".toList, ofText step.line), ("line_number".toList, ofNat step.number)] := by
  rw [ofStep, h]
  exact tells_entry stamp (by decide) (isField_ignored step.line step.number)

theorem tells_ofStep_some (stamp : Text) {step : Step Text} {command : Command}
    (h : step.command = some command) :
    Tells stamp (ofStep stamp step) "command.applied".toList
      [("command".toList, kind command), ("line_number".toList, ofNat step.number),
       ("placed".toList, ofBool step.robot.isPlaced)] := by
  rw [ofStep, h]
  exact tells_entry stamp (by decide) (isField_applied command step.number step.robot.isPlaced)

theorem tells_ofRun (stamp : Text) (lines ignored reports : Nat) :
    Tells stamp (ofRun stamp lines ignored reports) "run.complete".toList
      [("ignored".toList, ofNat ignored), ("lines".toList, ofNat lines),
       ("reports".toList, ofNat reports)] :=
  tells_entry stamp (by decide) (isField_complete lines ignored reports)

theorem feed_notMem_ofStep {stamp : Text} (hStamp : '\n' ∉ stamp) (step : Step Text) :
    '\n' ∉ ofStep stamp step := by
  unfold ofStep
  split
  · exact feed_notMem_entry hStamp (by decide) (isField_ignored step.line step.number)
  · rename_i command _
    exact feed_notMem_entry hStamp (by decide) (isField_applied command step.number _)

theorem feed_notMem_ofRun {stamp : Text} (hStamp : '\n' ∉ stamp) (lines ignored reports : Nat) :
    '\n' ∉ ofRun stamp lines ignored reports :=
  feed_notMem_entry hStamp (by decide) (isField_complete lines ignored reports)

end Log

end Tabletop
