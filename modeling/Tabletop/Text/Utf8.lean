import Tabletop.Text.Basic

/-!
# UTF-8 texts

`Utf8.decode?` gives the text that a sequence of bytes encodes; it is strict, so that overlong
forms, surrogates and truncated sequences encode nothing. `Utf8.decodeMarked?` is for files,
which may start with one byte order mark: the mark is no part of the text. A file that ends in
the middle of its mark holds no text yet, and so is empty.
-/

namespace Tabletop

namespace Utf8

/-- The bytes that encode a text. -/
def encode (t : Text) : ByteArray := (String.ofList t).toByteArray

/-- The text that the bytes encode. -/
def decode? (bytes : ByteArray) : Option Text := bytes.utf8Decode?.map Array.toList

theorem decode?_encode (t : Text) : decode? (encode t) = some t := by
  simp [decode?, encode]

theorem decode?_eq_some_iff {bytes : ByteArray} {t : Text} :
    decode? bytes = some t ↔ bytes = encode t := by
  refine ⟨fun h => ?_, fun h => h ▸ decode?_encode t⟩
  simp only [decode?, Option.map_eq_some_iff] at h
  obtain ⟨chars, hChars, rfl⟩ := h
  have hSome : bytes.utf8Decode?.isSome := by simp [hChars]
  have hBytes : (bytes.utf8Decode?.get hSome).toList.utf8Encode = bytes :=
    ByteArray.utf8Encode_get_utf8Decode?
  rw [← hBytes]
  simp [encode, hChars]

/-- The byte order mark, as a character. -/
def mark : Char := '\ufeff'

/-- The bytes of a mark that was cut short after its first or second byte. -/
def cutMarks : List (List UInt8) := [[0xef], [0xef, 0xbb]]

/-- The text that a file with these bytes holds. -/
def decodeMarked? (bytes : ByteArray) : Option Text :=
  if bytes.data.toList ∈ cutMarks then some []
  else
    match decode? bytes with
    | some (c :: rest) => some (if c = mark then rest else c :: rest)
    | other => other

end Utf8

end Tabletop
