import TemplateBundle.Namespace.Notation

/-!
Contract: the namespaces that one output file has declared.

Owns: the registry in order of declaration, the namespace shared by all declarations, and
the resolution of a namespace path, which declares what is missing of it.
-/

namespace TemplateBundle.Namespace

/-- The bracket forms declared so far, in order. -/
structure Registry where
  declared : List String
deriving DecidableEq, Repr

/-- What a file's templates are assigned to: the segments of the namespace, none of them if
there is no namespace, and the paths that had to be declared for it. -/
structure Resolution where
  target : List String
  fresh : List (List String)
deriving DecidableEq, Repr

/-- The written namespace of a list of segments. No segments are no namespace. -/
def expression (target : List String) : String :=
  if target = [] then "" else bracketPath target

/-- The declarations of some paths as one text. -/
def declarationsText (paths : List (List String)) : String :=
  String.intercalate "\n" (paths.map fun path => declarationText (bracketPath path))

/-- The paths to a namespace, from the outermost one in. -/
def pathsTo (target : List String) : List (List String) :=
  (List.range target.length).map fun depth => target.take (depth + 1)

namespace Registry

/-- Nothing is declared. -/
def empty : Registry := ⟨[]⟩

/-- The path is declared. -/
def contains (registry : Registry) (path : String) : Bool := registry.declared.contains path

/-- Declares a path, and says whether it was not declared before. -/
def declare (registry : Registry) (path : String) : Bool × Registry :=
  if registry.contains path then (false, registry) else (true, ⟨registry.declared ++ [path]⟩)

/-- Declares a path given by its segments, adding it to the ones that had to be declared. -/
def declareFresh (state : List (List String) × Registry) (path : List String) :
    List (List String) × Registry :=
  match state.2.declare (bracketPath path) with
  | (true, registry) => (state.1 ++ [path], registry)
  | (false, registry) => (state.1, registry)

/-- Declares every path to a namespace that is not declared yet. -/
def declareTo (registry : Registry) (target : List String) : Resolution × Registry :=
  let (fresh, registry) := (pathsTo target).foldl declareFresh ([], registry)
  (⟨target, fresh⟩, registry)

/-- The length of the leading part that ends with the last closing bracket after at least
one other character. -/
def lastBracketEnd : Nat → List Char → Option Nat
  | _, [] => none
  | position, character :: rest =>
      match lastBracketEnd (position + 1) rest with
      | some found => some found
      | none => if character = ']' ∧ 0 < position then some (position + 1) else none

/-- The outermost namespace of a written path: its root and first bracketed segment. -/
def outermost (path : String) : String :=
  let start := "this[".toList
  if start.isPrefixOf path.toList then
    match lastBracketEnd 0 ((path.toList.drop start.length).takeWhile (· ≠ '[')) with
    | some size => String.ofList (path.toList.take (start.length + size))
    | none => path
  else path

/-- The namespace that every declaration is taken to share: the only one declared, or the
outermost namespace of the first. -/
def globalNamespace (registry : Registry) : String :=
  match registry.declared with
  | [] => ""
  | [only] => only
  | first :: _ => outermost first

/-- Resolves the answer of whatever names the namespace of a file. Only a text is a path. -/
def resolveAnswer (registry : Registry) (answer : Value) (file : String) :
    Except ConfigFault Resolution × Registry :=
  match answer with
  | .text path =>
      match split path with
      | .error fault => (.error fault, registry)
      | .ok target =>
          let (resolution, changed) := registry.declareTo target
          (.ok resolution, changed)
  | other => (.error (.namespaceAnswer other.kindName file), registry)

end Registry

end TemplateBundle.Namespace
