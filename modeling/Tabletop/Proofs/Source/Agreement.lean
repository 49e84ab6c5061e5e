import Tabletop.Proofs.Command.Grammar
import Tabletop.Proofs.Run.Parts
import Tabletop.Proofs.Text.Lines
import Tabletop.Source

/-!
# Files and the standard input

A file and the standard input hold the same lines if they hold the same bytes, and the same bytes
can be read from neither (`file_and_input_agree`). The two ways to read part at the byte order mark
only: in front of a file it is dropped, once, while the standard input keeps it as the first
character of the first line, which is no command because of it. What a robot says then lacks what it
would say with that line, and nothing else.
-/

namespace Tabletop

/-! ## The mark -/

namespace Utf8

/-- The bytes of the mark. -/
def markBytes : List UInt8 := [0xef, 0xbb, 0xbf]

/-- The bytes behind a mark. -/
def marked (bytes : ByteArray) : ByteArray := ⟨markBytes.toArray⟩ ++ bytes

theorem encode_cons (c : Char) (t : Text) : encode (c :: t) = encode [c] ++ encode t := by
  simp only [encode, String.toByteArray_ofList]
  exact List.utf8Encode_cons

theorem encode_mark_cons (t : Text) : encode (mark :: t) = marked (encode t) := by
  have hMark : encode [mark] = ⟨markBytes.toArray⟩ := by decide
  rw [encode_cons, hMark, marked]

theorem toList_marked (bytes : ByteArray) :
    (marked bytes).data.toList = markBytes ++ bytes.data.toList := by
  rw [marked, ByteArray.data_append, Array.toList_append]

theorem decode?_marked {bytes : ByteArray} {t : Text} (h : decode? bytes = some t) :
    decode? (marked bytes) = some (mark :: t) := by
  rw [decode?_eq_some_iff] at h ⊢
  rw [h, encode_mark_cons]

/-- Of a mark and a text, a file holds the text. -/
theorem decodeMarked?_marked {bytes : ByteArray} {t : Text} (h : decode? bytes = some t) :
    decodeMarked? (marked bytes) = some t := by
  have hWhole : (marked bytes).data.toList ∉ cutMarks := by
    simp [toList_marked, markBytes, cutMarks]
  rw [decodeMarked?, if_neg hWhole, decode?_marked h]
  simp

/-- A file that was written with a text holds it, if the text does not start with a mark. -/
theorem decodeMarked?_encode {t : Text} (h : t.head? ≠ some mark) :
    decodeMarked? (encode t) = some t := by
  have hDecode := decode?_encode t
  have hWhole : (encode t).data.toList ∉ cutMarks := by
    intro hCut
    have hNone : ∀ bytes ∈ cutMarks, decode? ⟨bytes.toArray⟩ = none := by decide
    have hCutDecode := hNone _ hCut
    rw [Array.toArray_toList, hDecode] at hCutDecode
    cases hCutDecode
  rw [decodeMarked?, if_neg hWhole, hDecode]
  cases t with
  | nil => rfl
  | cons c rest =>
    have hFirst : c ≠ mark := fun hc => h (congrArg some hc)
    dsimp only
    rw [if_neg hFirst]

/-- Without a mark, whole or cut short, a file holds the text that its bytes encode. -/
theorem decodeMarked?_eq_decode? {bytes : ByteArray} (hMark : ¬ markBytes <+: bytes.data.toList)
    (hCut : bytes.data.toList ∉ cutMarks) : decodeMarked? bytes = decode? bytes := by
  rw [decodeMarked?, if_neg hCut]
  split
  · rename_i c rest hDecode
    have hFirst : c ≠ mark := by
      rintro rfl
      rw [decode?_eq_some_iff.mp hDecode, encode_mark_cons, toList_marked] at hMark
      exact hMark (List.prefix_append _ _)
    rw [if_neg hFirst, hDecode]
  · rfl

end Utf8

/-- A line that starts with a mark is no command. -/
theorem Command.ofLine?_mark_cons (t : Text) : ofLine? (Utf8.mark :: t) = none :=
  ofLine?_cons_eq_none (by decide) (by decide) t

namespace Source

/-! ## The two ways to read -/

variable {openFile : Path → Except OpenFailure ByteArray} {input : Input} {source : Text}
  {bytes : ByteArray}

/-- The source is the name of a file that holds these bytes. -/
structure IsFile (openFile : Path → Except OpenFailure ByteArray) (source : Text)
    (bytes : ByteArray) : Prop where
  ne_input : source ≠ inputName
  no_null : '\x00' ∉ (Path.ofText source).text
  opens : openFile (Path.ofText source) = .ok bytes

theorem read_file (h : IsFile openFile source bytes) :
    read openFile input source =
      (Utf8.decodeMarked? bytes).elim (.error (.source (.encoding (Path.ofText source).text)))
        fun t => .ok t.lines := by
  rw [read, if_neg h.ne_input, readFile, if_neg h.no_null, h.opens]
  dsimp only
  cases Utf8.decodeMarked? bytes with
  | none => rfl
  | some t => simp only [Text.lines_lineFeeds, Option.elim_some]

theorem read_input_bytes :
    read openFile (.bytes bytes) inputName =
      (Utf8.decode? bytes).elim (.error (.source .inputEncoding)) fun t => .ok t.lines := by
  rw [read, if_pos rfl, readInput]
  cases Utf8.decode? bytes with
  | none => rfl
  | some t => simp only [Text.lines_lineFeeds, Option.elim_some]

theorem read_input_text (t : Text) : read openFile (.text t) inputName = .ok t.lines := rfl

/-- Bytes that start with no mark give the same lines from a file as from the standard input, and as
the text that they encode; or they encode no text, and neither can be read. Of bytes behind a mark,
the file holds the lines of their text. On the standard input the first of these lines is no
command, so that the robot says what it says on the others. -/
theorem file_and_input_agree (openFile : Path → Except OpenFailure ByteArray) (input : Input)
    (source : Text) :
    (∀ bytes, IsFile openFile source bytes →
      ¬ Utf8.markBytes <+: bytes.data.toList → bytes.data.toList ∉ [[0xef], [0xef, 0xbb]] →
      (∀ t, Utf8.decode? bytes = some t → ∃ lines,
        read openFile input source = .ok lines ∧
        read openFile (.bytes bytes) inputName = .ok lines ∧
        read openFile (.text t) inputName = .ok lines) ∧
      (Utf8.decode? bytes = none → ∃ failure inputFailure,
        read openFile input source = .error (.source failure) ∧
        read openFile (.bytes bytes) inputName = .error (.source inputFailure))) ∧
    ∀ bytes t, IsFile openFile source (Utf8.marked bytes) → Utf8.decode? bytes = some t →
      read openFile input source = .ok t.lines ∧
      ∃ first others,
        read openFile (.bytes (Utf8.marked bytes)) inputName = .ok (first :: others) ∧
        Command.ofLine? first = none ∧
        ∀ board : Board, board.reports (first :: others) = board.reports (t.lines.drop 1) := by
  constructor
  · intro bytes hFile hMark hCut
    have hDecode : Utf8.decodeMarked? bytes = Utf8.decode? bytes :=
      Utf8.decodeMarked?_eq_decode? hMark hCut
    rw [read_file hFile, read_input_bytes, hDecode]
    constructor
    · intro t ht
      rw [ht]
      exact ⟨t.lines, rfl, rfl, read_input_text t⟩
    · intro hNone
      rw [hNone]
      exact ⟨_, _, rfl, rfl⟩
  · intro bytes t hFile ht
    have hFirst := Command.ofLine?_mark_cons (t.lines.headD [])
    rw [read_file hFile, read_input_bytes, Utf8.decodeMarked?_marked ht, Utf8.decode?_marked ht]
    refine ⟨rfl, _, _, ?_, hFirst, fun board => board.reports_cons_of_none hFirst (t.lines.drop 1)⟩
    rw [Option.elim_some, Text.lines_cons (by decide) (by decide), Text.joinFirst_eq]

/-- A file of three lines, each ended in another way, and a file that starts with a mark. -/
theorem file_and_input_agree_at_mark :
    let folder (bytes : ByteArray) : Folder := ⟨[(["in.txt".toList], bytes)], []⟩
    let bytes := Utf8.encode "PLACE 1,1,EAST\r\nMOVE\rREPORT\n".toList
    (∃ lines,
      read (folder bytes).open? .interrupted "./in.txt".toList = .ok lines ∧
      read (folder bytes).open? (.bytes bytes) inputName = .ok lines) ∧
    read (folder (Utf8.marked bytes)).open? .interrupted "./in.txt".toList =
      .ok ["PLACE 1,1,EAST".toList, "MOVE".toList, "REPORT".toList] ∧
    ∃ first others,
      read (folder (Utf8.marked bytes)).open? (.bytes (Utf8.marked bytes)) inputName =
        .ok (first :: others) ∧
      Command.ofLine? first = none ∧
      ∀ board : Board, board.reports (first :: others) =
        board.reports ["MOVE".toList, "REPORT".toList] := by
  intro folder bytes
  have hFile (held : ByteArray) : IsFile (folder held).open? "./in.txt".toList held :=
    ⟨by decide, by decide, rfl⟩
  have hDecode := Utf8.decode?_encode "PLACE 1,1,EAST\r\nMOVE\rREPORT\n".toList
  obtain ⟨hPlain, -⟩ := file_and_input_agree (folder bytes).open? .interrupted "./in.txt".toList
  obtain ⟨hLines, -⟩ := hPlain bytes (hFile bytes) (by decide) (by decide)
  obtain ⟨lines, hRead, hInput, -⟩ := hLines _ hDecode
  obtain ⟨-, hMarked⟩ :=
    file_and_input_agree (folder (Utf8.marked bytes)).open? .interrupted "./in.txt".toList
  obtain ⟨hRest, first, others, hFirst⟩ := hMarked bytes _ (hFile (Utf8.marked bytes)) hDecode
  exact ⟨⟨lines, hRead, hInput⟩, hRest, first, others, hFirst⟩

end Source

end Tabletop
