/-
Paths as values: the slashes in front and the parts between the others, without a file system behind them.

A relative path has no root. POSIX keeps a root of exactly two slashes apart from that of one slash or of three and more,
and so do the path classes that follow it.

`below_join`: a relative path, joined to a base, lies below it, whatever its parts are.
-/
import Mathlib.Data.List.Basic
import Mathlib.Data.List.Infix

namespace AstraFsw.FileTree

/-- what can stand between two slashes -/
inductive Part (α : Type) where
  | empty
  | dot
  | up
  | name (n : α)
deriving DecidableEq, Repr

/-- a path with parts of some kind: 0, 1 or 2 slashes in front -/
structure PurePath (π : Type) where
  root : ℕ
  parts : List π
deriving DecidableEq, Repr

namespace PurePath

variable {π : Type}

def isAbsolute (path : PurePath π) : Bool := path.root != 0

/-- `base / path` -/
def join (base path : PurePath π) : PurePath π :=
  if path.isAbsolute then path else { base with parts := base.parts ++ path.parts }

/-- `path.is_relative_to(base)`: the parts of the base come first, whatever follows -/
def Below (path base : PurePath π) : Prop := path.root = base.root ∧ base.parts <+: path.parts

instance [DecidableEq π] (path base : PurePath π) : Decidable (path.Below base) :=
  inferInstanceAs (Decidable (_ ∧ _))

/-- a relative path, joined to a base, lies below it, whatever its parts are -/
theorem below_join {base path : PurePath π} (h : path.isAbsolute = false) : (base.join path).Below base := by
  rw [join, if_neg (by simp [h])]
  exact ⟨rfl, List.prefix_append _ _⟩

end PurePath

/-- a path as a text gives it, `..` included -/
abbrev TextPath := PurePath (Part (List Char))

namespace PurePath

/-- `Path(text)`: empty parts and `.` vanish, `..` stays -/
def ofText (text : List Char) : TextPath where
  root :=
    match text with
    | '/' :: '/' :: '/' :: _ => 1
    | '/' :: '/' :: _ => 2
    | '/' :: _ => 1
    | _ => 0
  parts := ((text.splitOn '/').filter fun part => part ≠ [] ∧ part ≠ ['.']).map fun part =>
    if part = ['.', '.'] then .up else .name part

example : ofText "//docs/./a//../b/".toList =
    ⟨2, [.name "docs".toList, .name "a".toList, .up, .name "b".toList]⟩ := by decide

end PurePath

end AstraFsw.FileTree
