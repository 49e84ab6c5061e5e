import Tabletop.Text.Basic

/-!
# Paths

A path is a root, which is empty for a relative path, and the names to follow from there.
Reading a path from a text drops empty names and single dots, so that a text may hold doubled and
trailing slashes; double dots are kept, since what they lead to depends on the folders. One slash
in front makes a path absolute. Two slashes are a root of their own, three or more are one slash.
-/

namespace Tabletop

structure Path where
  root : Text
  names : List Text
  deriving DecidableEq, Repr

namespace Path

/-- The root of the path that a text stands for. -/
def rootOf (t : Text) : Text :=
  match (t.takeWhile (· == '/')).length with
  | 0 => []
  | 2 => ['/', '/']
  | _ => ['/']

/-- The path that a text stands for. -/
def ofText (t : Text) : Path :=
  ⟨rootOf t, (t.splitOn '/').filter fun name => name ≠ [] ∧ name ≠ ['.']⟩

/-- The text of a path. The empty relative path is a single dot. -/
def text (path : Path) : Text :=
  if path.root = [] ∧ path.names = [] then ['.']
  else path.root ++ ['/'].intercalate path.names

end Path

end Tabletop
