import TemplateBundle.Environment
import TemplateBundle.Options.Basic
import TemplateBundle.Program.Basic

/-!
Contract: one template compiled, with the functions for its content and its syntax tree
applied.

Owns: the options handed to the compiler, the order of the stages, and the naming of the
template in a compile error.
-/

namespace TemplateBundle

/-- A compiled template: its expression in the generated module, and its syntax tree, null
where none was asked for. -/
structure Compiled where
  body : String
  ast : Value

/-- Work that can fail and tells events, without a step on the files. -/
abbrev Telling := ExceptT Failure (StateM (List Event))

namespace Telling

/-- Tells one event. -/
def tell (event : Event) : Telling Unit := modify (· ++ [event])

/-- Passes an outcome on. -/
def pass {α : Type} (outcome : Except Failure α) : Telling α := fun events => (outcome, events)

/-- The same work as a part of a program. -/
def toWork {α : Type} (telling : Telling α) : Work α :=
  let (outcome, events) := telling.run []
  ExceptT.mk ((Program.tell events).bind fun _ => .done outcome)

end Telling

namespace Compilation

/-- The known helpers that the compiler's options hold already, as a map. -/
def presentHelpers (options : Options) : Except Failure Entries :=
  match options.compilerOptions.getText? "knownHelpers" with
  | none => .ok []
  | some (.map entries) => .ok entries
  | some other =>
      .error (.mishap .wrongType (Text.quoted other.kindName ++ " object is not a mapping"))

/-- The options for the compiler: those given, with the known helpers added to theirs. -/
def compilerOptions (options : Options) : Except Failure Entries := do
  let helpers := options.knownHelpersMap
  let merged ←
    if helpers = [] then .ok options.compilerOptions
    else do
      let present ← presentHelpers options
      .ok (options.compilerOptions.insertText "knownHelpers" (.map (present.update helpers)))
  .ok (if options.knownHelpersOnly then merged.insertText "knownHelpersOnly" (.bool true)
    else merged)

/-- The source after the function for content. -/
def content (environment : Environment) (options : Options) (source file : String) :
    Except Failure Value :=
  match options.processContent with
  | none => .ok (.text source)
  | some function => environment.call function [.text source, .text file]

/-- The compiled text of a source, by way of its syntax tree if that is wanted. -/
def stages (environment : Environment) (options : Options) (wantsTree : Bool) (source : Value) :
    Telling (String × Value) := do
  if wantsTree || options.processAst.isSome then
    Telling.tell (.request (.parse source))
    let parsed ← Telling.pass (environment.compiler.parse source)
    let ast ← match options.processAst with
      | none => pure parsed
      | some function => Telling.pass (environment.call function [parsed])
    let settings ← Telling.pass (compilerOptions options)
    Telling.tell (.request (.precompile ast (.map settings)))
    let body ← Telling.pass (environment.compiler.precompile ast (.map settings))
    pure (body, ast)
  else
    let settings ← Telling.pass (compilerOptions options)
    Telling.tell (.request (.precompile source (.map settings)))
    let body ← Telling.pass (environment.compiler.precompile source (.map settings))
    pure (body, .null)

/-- A compile error names the template. -/
def nameTemplate (file : String) : Failure → Failure
  | .template text _ => .template text (some file)
  | failure => failure

/-- The expression of a compiled text. -/
def expression (options : Options) (body : String) : String :=
  if options.wrapped then options.runtime ++ ".template(" ++ body ++ ")" else body

/-- Compiles one template. -/
def compile (environment : Environment) (options : Options) (wantsTree : Bool)
    (source file : String) : Telling Compiled := do
  let source ← Telling.pass (content environment options source file)
  let (body, ast) ←
    ExceptT.adapt (nameTemplate file) (stages environment options wantsTree source)
  let body := expression options body
  Telling.tell (.log ⟨.debug, "Compiled " ++ file ++ " (" ++ toString body.length ++ " chars)"⟩)
  pure ⟨body, ast⟩

end Compilation

end TemplateBundle
