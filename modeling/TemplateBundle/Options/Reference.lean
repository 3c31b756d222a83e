import TemplateBundle.Failure

/-!
Contract: references `module:attribute` and the functions they name.

Owns: the catalogue of modules, what comes of importing them and of asking them for what they
hold, the search for a reference, and the replacement of references by functions in raw options.

Does not own: what a function does when it is called (`Environment`).
-/

namespace TemplateBundle

/-- What comes of writing a function back. -/
inductive Writing where
  | itself
  | value (value : Value)
  /-- The function breaks off. -/
  | failing (kind : Mishap) (text : String)
deriving DecidableEq

/-- What a function is besides, where it is a value of another kind too: what it stands for under
the options that need not be functions, which is the function itself where nothing is said, and what
comes of writing it back. -/
structure Guise where
  dependency : Option Value := none
  namespacePath : Option Value := none
  written : Writing := .itself
deriving DecidableEq

/-- What comes of asking a module for something that it holds. -/
inductive Holding where
  /-- A value that is no function. -/
  | value
  | function (guise : Guise := {})
  /-- The module breaks off. -/
  | failing (kind : Mishap) (text : String)
deriving DecidableEq

/-- Something that a module holds, by its dotted name in the module. -/
structure Member where
  name : String
  holding : Holding
deriving DecidableEq

/-- What comes of importing a module. -/
inductive Module where
  | loaded (members : List Member)
  /-- The module cannot be imported, for the reason that it gives. -/
  | refused (text : String)
deriving DecidableEq

/-- The modules that references can name. -/
abbrev Catalogue := List (String × Module)

namespace Catalogue

/-- What comes of importing a module that is there. -/
def module? (catalogue : Catalogue) (name : String) : Option Module :=
  (catalogue.find? fun entry => entry.1 == name).map Prod.snd

/-- The names on the way to a dotted name, from the outermost one in. -/
def ancestry (parts : List String) : List String :=
  (List.range parts.length).map fun depth => String.intercalate "." (parts.take (depth + 1))

/-- Why the first of some names cannot be imported, given the module around it. -/
def absence? (catalogue : Catalogue) : Option String → List String → Option String
  | _, [] => none
  | outer, name :: rest =>
      match catalogue.module? name, outer with
      | some (.loaded _), _ => absence? catalogue (some name) rest
      | some (.refused text), _ => some text
      | none, none => some ("No module named " ++ Text.quoted name)
      | none, some parent =>
          some ("No module named " ++ Text.quoted name ++ "; " ++ Text.quoted parent ++
            " is not a package")

/-- The members of a module, or why there are none. A name that starts with a dot is relative to a
module that there is not. -/
def load (catalogue : Catalogue) (name : String) : Except Failure (List Member) :=
  if name.toList.head? = some '.' then
    .error (.mishap .wrongType
      ("the 'package' argument is required to perform a relative import for " ++ Text.quoted name))
  else
    match catalogue.module? name with
    | some (.loaded members) => .ok members
    | some (.refused text) => .error (.config (.unknownModule name text))
    | none =>
        let cause := catalogue.absence? none (ancestry (Text.pieces '.' name))
        .error (.config (.unknownModule name (cause.getD "")))

/-- What a module holds under the last of some names, each of which it is asked for in turn. One at
which it breaks off for want of an attribute is missing like one that it does not hold. -/
def reach (members : List Member) (missing : Failure) :
    Holding → List String → Except Failure Holding
  | last, [] => .ok last
  | _, name :: rest =>
      match members.find? fun member => member.name == name with
      | none => .error missing
      | some ⟨_, .failing .missingAttribute _⟩ => .error missing
      | some ⟨_, .failing kind text⟩ => .error (.mishap kind text)
      | some ⟨_, held⟩ => reach members missing held rest

/-- The function that a reference names. -/
def find (catalogue : Catalogue) (reference : String) : Except Failure Callable :=
  match Text.cutAtFirst? ':' reference with
  | none => .error (.config (.malformedReference reference))
  | some (module, name) =>
      if module = "" ∨ name = "" then .error (.config (.malformedReference reference))
      else
        match catalogue.load module with
        | .error failure => .error failure
        | .ok members =>
            let missing := Failure.config (.unknownAttribute module name)
            match reach members missing .value (ancestry (Text.pieces '.' name)) with
            | .error failure => .error failure
            | .ok (.function _) => .ok ⟨module, name⟩
            | .ok _ => .error (.config (.notCallable reference))

/-- What a function is besides. -/
def guise (catalogue : Catalogue) (function : Callable) : Guise :=
  match catalogue.module? function.module with
  | some (.loaded members) =>
      match members.find? fun member => member.name == function.name with
      | some ⟨_, .function guise⟩ => guise
      | _ => {}
  | _ => {}

end Catalogue

namespace Options

/-- The spellings of the option that names the namespace by a function. -/
def namespaceFunctionNames : List String := ["namespace_function", "namespaceFunction"]

/-- The options whose values may be references, in every spelling. -/
def referenceNames : List String :=
  ["process_content", "processContent", "process_name", "processName", "process_partial_name",
    "processPartialName", "process_ast", "processAST", "amd"] ++ namespaceFunctionNames

/-- The reference that stands under a name. A dependency without a colon is none. -/
def reference? (raw : Entries) (name : String) : Option String :=
  match raw.getText? name with
  | some (.text content) =>
      if name = "amd" ∧ ¬ content.toList.contains ':' then none else some content
  | _ => none

/-- What a function stands for under a name. A dependency or a namespace that is a value of another
kind too is that value. -/
def standing (catalogue : Catalogue) (name : String) (function : Callable) : Value :=
  let guise := catalogue.guise function
  let value? :=
    if name = "amd" then guise.dependency
    else if namespaceFunctionNames.contains name then guise.namespacePath
    else none
  value?.getD (.callable function)

/-- Replaces the reference under a name by its function. -/
def resolveName (catalogue : Catalogue) (raw : Entries) (name : String) :
    Except Failure Entries :=
  match reference? raw name with
  | none => .ok raw
  | some reference =>
      (catalogue.find reference).map fun found =>
        raw.insertText name (standing catalogue name found)

/-- Replaces the references under some names, in order. -/
def resolveNames (catalogue : Catalogue) : List String → Entries → Except Failure Entries
  | [], raw => .ok raw
  | name :: rest, raw =>
      match resolveName catalogue raw name with
      | .ok changed => resolveNames catalogue rest changed
      | .error failure => .error failure

/-- Moves a function of the namespace to the option for the namespace, which must be free. -/
def moveNamespaceFunctions : List String → Entries → Except Failure Entries
  | [], raw => .ok raw
  | name :: rest, raw =>
      match raw.getText? name with
      | none => moveNamespaceFunctions rest raw
      | some value =>
          if raw.hasText "namespace" then .error (.config .twoNamespaces)
          else moveNamespaceFunctions rest ((raw.eraseText name).insertText "namespace" value)

/-- Raw options with functions in place of the references under some names, which are looked at in
order. -/
def resolveInOrder (catalogue : Catalogue) (order : List String) (raw : Entries) :
    Except Failure Entries :=
  match resolveNames catalogue order raw with
  | .ok resolved => moveNamespaceFunctions namespaceFunctionNames resolved
  | .error failure => .error failure

/-- Raw options with functions in place of references. -/
def resolveReferences (catalogue : Catalogue) (raw : Entries) : Except Failure Entries :=
  resolveInOrder catalogue referenceNames raw

end Options

end TemplateBundle
