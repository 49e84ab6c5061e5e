import Tabletop.Source.Path
import Tabletop.Text.Utf8

/-!
# Folders

A folder holds files and further folders, each under the names that lead to it. `Folder.open?`
follows a path from a folder: a file is found only at the very end of the path, every name before
it must lead to a folder, and a double dot leads back to the folder above. Of what lies above the
folder nothing is known, except that there are folders. Names and paths are bounded in length.
-/

namespace Tabletop

/-- Why a path could not be opened as a file. -/
inductive OpenFailure where
  | missing
  | folder
  | refused (reason : Text)
  deriving DecidableEq, Repr

structure Folder where
  files : List (List Text × ByteArray)
  folders : List (List Text)

namespace Folder

/-- What some names lead to. -/
inductive Entry where
  | file (bytes : ByteArray)
  | folder
  | nothing

/-- What the names lead to. Every name on the way to a file or folder leads to a folder. -/
def entry (folder : Folder) (names : List Text) : Entry :=
  match folder.files.lookup names with
  | some bytes => .file bytes
  | none =>
    if names = [] ∨ folder.folders.any (names.isPrefixOf ·) ∨
        folder.files.any (names.isPrefixOf ·.1) then .folder
    else .nothing

/-- The greatest length of a name, in bytes. -/
def nameLimit : Nat := 255

/-- The greatest length of a path, in bytes. -/
def pathLimit : Nat := 4095

def tooLong : OpenFailure := .refused "File name too long".toList

def notFolder : OpenFailure := .refused "Not a directory".toList

/-- The parent of the double dot. -/
def parentName : Text := ['.', '.']

/-- The file at the end of `names`, followed from the folder at `here`, which is `none` above the
folder itself. -/
def follow (folder : Folder) : Option (List Text) → List Text → Except OpenFailure ByteArray
  | _, [] => .error .folder
  | here, name :: names =>
    if name = parentName then
      match here with
      | some (first :: others) => folder.follow (some (first :: others).dropLast) names
      | _ => folder.follow none names
    else if nameLimit < (Utf8.encode name).size then .error tooLong
    else
      match here with
      | none => .error .missing
      | some passed =>
        match folder.entry (passed ++ [name]), names with
        | .file bytes, [] => .ok bytes
        | .file _, _ => .error notFolder
        | .folder, _ => folder.follow (some (passed ++ [name])) names
        | .nothing, _ => .error .missing

/-- The bytes of the file that the path leads to. -/
def open? (folder : Folder) (path : Path) : Except OpenFailure ByteArray :=
  if pathLimit < (Utf8.encode path.text).size then .error tooLong
  else folder.follow (if path.root = [] then some [] else none) path.names

end Folder

end Tabletop
