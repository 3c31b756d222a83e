import TemplateBundle.Text.Split

/-!
Contract: paths as they are given in options and messages.

Owns: the normal form (repeated slashes, single dots and a slash at the end dropped, two
dots kept), the written form, joining, the parent and the last name.

Does not own: what a path leads to (`FileTree`).
-/

namespace TemplateBundle

/-- A path: how many slashes it starts with (none, one, or exactly two), and its parts. -/
structure Path where
  slashes : Nat
  parts : List String
deriving DecidableEq, Repr

namespace Path

/-- The leading slashes that count: exactly two are kept, any other number above zero
counts as one. -/
def leadingSlashes (characters : List Char) : Nat :=
  match characters.takeWhile (· = '/') with
  | [] => 0
  | [_, _] => 2
  | _ => 1

/-- The parts that a text contributes to a path. -/
def partsOf (text : String) : List String :=
  (Text.pieces '/' text).filter fun piece => piece ≠ "" && piece ≠ "."

/-- The path that a text names. -/
def ofString (text : String) : Path := ⟨leadingSlashes text.toList, partsOf text⟩

/-- The path that names the working directory. -/
def here : Path := ⟨0, []⟩

/-- The written form. The empty path is a single dot. -/
def toString (path : Path) : String :=
  if path.slashes = 0 ∧ path.parts = [] then "."
  else String.ofList (List.replicate path.slashes '/') ++ String.intercalate "/" path.parts

instance : ToString Path := ⟨toString⟩

/-- A path below another one. A path that starts with a slash stands on its own. -/
def join (base : Path) (text : String) : Path :=
  let below := ofString text
  if below.slashes = 0 then ⟨base.slashes, base.parts ++ below.parts⟩ else below

/-- The path without its last part. -/
def parent (path : Path) : Path := ⟨path.slashes, path.parts.dropLast⟩

/-- The last part, or the empty name. -/
def name (path : Path) : String := path.parts.getLast?.getD ""

/-- A path with a null character names nothing. -/
def isUsable (path : Path) : Bool := path.parts.all fun part => !part.toList.contains '\x00'

end Path

end TemplateBundle
