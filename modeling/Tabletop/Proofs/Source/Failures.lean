import Tabletop.Proofs.Text.Split
import Tabletop.Source

/-!
# The failures of a source

Reading a file gives its lines or a `SourceFailure`, unless a null character stands in the name of
the source: nothing is foreseen for that, and reading crashes (`read_isForeseen_iff`). The name can
be put for the path that is opened, since a path is made of all characters of its name but slashes
and dots (`Path.mem_text_ofText`).

Of the standard input, what the system refuses and what encodes no text are failures of the source;
a stream that fails in another way, or is broken off, is left to the caller.
-/

namespace Tabletop

/-! ## The characters of a path -/

namespace Path

theorem mem_rootOf {t : Text} {c : Char} (h : c ∈ rootOf t) : c = '/' := by
  unfold rootOf at h
  split at h
  · exact absurd h List.not_mem_nil
  · simpa using h
  · simpa using h

/-- The names of a path hold all of its text but the slashes and dots. -/
theorem exists_mem_names {t : Text} {c : Char} (hSlash : c ≠ '/') (hDot : c ≠ '.') :
    (∃ name ∈ (ofText t).names, c ∈ name) ↔ c ∈ t := by
  rw [← Text.exists_mem_splitOn hSlash]
  constructor
  · rintro ⟨name, hName, hc⟩
    exact ⟨name, (List.mem_filter.mp hName).1, hc⟩
  · rintro ⟨name, hName, hc⟩
    have hSome : name ≠ [] := List.ne_nil_of_mem hc
    have hOther : name ≠ ['.'] := by
      rintro rfl
      exact hDot (List.mem_singleton.mp hc)
    exact ⟨name, List.mem_filter.mpr ⟨hName, by simp [hSome, hOther]⟩, hc⟩

theorem mem_text_ofText {t : Text} {c : Char} (hSlash : c ≠ '/') (hDot : c ≠ '.') :
    c ∈ (ofText t).text ↔ c ∈ t := by
  rw [← exists_mem_names (t := t) hSlash hDot]
  unfold text
  split
  · rename_i hEmpty
    simp [hEmpty.2, hDot]
  · have hRoot : c ∉ (ofText t).root := fun h => hSlash (mem_rootOf h)
    rw [List.mem_append, or_iff_right hRoot, Text.mem_intercalate hSlash]

end Path

namespace Source

/-- Reading gave lines or a failure of the source. -/
def IsForeseen (result : Except ReadFailure (List Text)) : Prop :=
  (∃ lines, result = .ok lines) ∨ ∃ failure, result = .error (.source failure)

theorem isForeseen_ok (lines : List Text) : IsForeseen (.ok lines) := Or.inl ⟨lines, rfl⟩

theorem isForeseen_source (failure : SourceFailure) : IsForeseen (.error (.source failure)) :=
  Or.inr ⟨failure, rfl⟩

theorem not_isForeseen_crash (cause : Crash) : ¬ IsForeseen (.error (.crash cause)) := by
  rintro (⟨lines, h⟩ | ⟨failure, h⟩) <;> cases h

theorem not_isForeseen_interrupted : ¬ IsForeseen (.error .interrupted) := by
  rintro (⟨lines, h⟩ | ⟨failure, h⟩) <;> cases h

theorem readFile_of_null {openFile : Path → Except OpenFailure ByteArray} {path : Path}
    (h : '\x00' ∈ path.text) : readFile openFile path = .error (.crash nullInPath) := by
  rw [readFile, if_pos h]

/-- Whatever comes of opening a file, and whatever it holds, is foreseen. -/
theorem isForeseen_readFile {openFile : Path → Except OpenFailure ByteArray} {path : Path}
    (h : '\x00' ∉ path.text) : IsForeseen (readFile openFile path) := by
  rw [readFile, if_neg h]
  cases openFile path with
  | error failure => exact isForeseen_source _
  | ok bytes =>
    dsimp only
    cases Utf8.decodeMarked? bytes with
    | some t => exact isForeseen_ok _
    | none => exact isForeseen_source _

theorem isForeseen_readFile_iff (openFile : Path → Except OpenFailure ByteArray) (source : Text) :
    IsForeseen (readFile openFile (Path.ofText source)) ↔ '\x00' ∉ source := by
  rw [← Path.mem_text_ofText (t := source) (c := '\x00') (by decide) (by decide)]
  constructor
  · intro hForeseen hNull
    rw [readFile_of_null hNull] at hForeseen
    exact not_isForeseen_crash nullInPath hForeseen
  · exact isForeseen_readFile

/-- A stream that fails in a way that the system does not account for, or that is broken off. -/
inductive BreaksDown : Input → Prop
  | crashing (crash : Crash) : BreaksDown (.crashing crash)
  | interrupted : BreaksDown .interrupted

theorem isForeseen_readInput_iff (input : Input) :
    IsForeseen (readInput input) ↔ ¬ BreaksDown input := by
  cases input with
  | bytes bytes =>
    refine iff_of_true ?_ (fun h => by cases h)
    rw [readInput]
    cases Utf8.decode? bytes with
    | some t => exact isForeseen_ok _
    | none => exact isForeseen_source _
  | text t => exact iff_of_true (isForeseen_ok _) (fun h => by cases h)
  | unreadable detail => exact iff_of_true (isForeseen_source _) (fun h => by cases h)
  | crashing crash =>
    exact iff_of_false (not_isForeseen_crash crash) (not_not_intro (.crashing crash))
  | interrupted => exact iff_of_false not_isForeseen_interrupted (not_not_intro .interrupted)

/-! ## What is foreseen -/

/-- Reading a file gives lines or a failure of the source exactly if no null character stands in the
name of the source, for which nothing is foreseen. Reading the standard input does exactly if the
stream does not break down: what the system refuses is a failure of the source, and so are bytes
that encode no text. -/
theorem read_isForeseen_iff (openFile : Path → Except OpenFailure ByteArray) (input : Input)
    (source : Text) :
    (source ≠ inputName →
      (IsForeseen (read openFile input source) ↔ '\x00' ∉ source) ∧
      ('\x00' ∈ source → read openFile input source = .error (.crash nullInPath))) ∧
    (IsForeseen (read openFile input inputName) ↔ ¬ BreaksDown input) ∧
    (∀ detail, read openFile (.unreadable detail) inputName =
      .error (.source (.inputRefused detail))) ∧
    ∀ bytes, Utf8.decode? bytes = none →
      read openFile (.bytes bytes) inputName = .error (.source .inputEncoding) := by
  refine ⟨fun hFile => ⟨?_, fun hNull => ?_⟩, isForeseen_readInput_iff input, fun detail => rfl,
    fun bytes hBytes => ?_⟩
  · rw [read, if_neg hFile]
    exact isForeseen_readFile_iff openFile source
  · rw [read, if_neg hFile]
    exact readFile_of_null ((Path.mem_text_ofText (by decide) (by decide)).mpr hNull)
  · rw [read, if_pos rfl, readInput, hBytes]

/-- A path through a file, a path with a null character, and an input that encodes nothing. -/
theorem read_isForeseen_at_odd_names :
    let openFile := Folder.open? ⟨[(["a".toList], Utf8.encode "MOVE".toList)], []⟩
    let input := Input.bytes ⟨#[0xff]⟩
    IsForeseen (read openFile input "a/./[b].txt".toList) ∧
      read openFile input "a/\x00".toList = .error (.crash nullInPath) ∧
      read openFile input "-".toList = .error (.source .inputEncoding) := by
  intro openFile input
  obtain ⟨hNamed, -⟩ := read_isForeseen_iff openFile input "a/./[b].txt".toList
  obtain ⟨hNull, -, -, hBytes⟩ := read_isForeseen_iff openFile input "a/\x00".toList
  exact ⟨(hNamed (by decide)).1.mpr (by decide), (hNull (by decide)).2 (by decide),
    hBytes ⟨#[0xff]⟩ (by decide)⟩

/-- The name of a file with a null character in it is not foreseen. -/
theorem not_isForeseen_null_in_name :
    "a\x00b".toList ≠ inputName ∧
      ¬ IsForeseen (read (Folder.open? ⟨[], []⟩) (.text []) "a\x00b".toList) := by
  have hCrash : read (Folder.open? ⟨[], []⟩) (.text []) "a\x00b".toList =
      .error (.crash nullInPath) := by
    rw [read, if_neg (by decide)]
    exact readFile_of_null (by decide)
  rw [hCrash]
  exact ⟨by decide, not_isForeseen_crash nullInPath⟩

end Source

end Tabletop
