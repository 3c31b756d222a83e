import TemplateBundle.Bundle.Dependency
import TemplateBundle.Bundle.Statement
import TemplateBundle.Template.Discovery

/-!
Contract: the statements of a bundle, from its preamble to its end.

Owns: the state of a bundle in the making, the wrappers around the whole output or around
each fragment, and the fragment of one compiled template.

A bundle that fails to be assembled keeps what it had declared before the failure.
-/

namespace TemplateBundle

/-- A bundle in the making. -/
structure Bundle where
  options : Options
  /-- The namespaces declared in the output. -/
  registry : Namespace.Registry
  /-- The segments of the namespace resolved last. -/
  target : List String
  /-- How many templates were compiled. -/
  compiled : Nat
  /-- The templates that were skipped, by their relative paths. -/
  skipped : List String

/-- What became of a task. -/
structure Report where
  outputPath : Path
  compiled : Nat
  skipped : List String
deriving DecidableEq

/-- The statements for one template, by their part of the fragment. -/
structure Fragment where
  name : Value
  opening : List Statement
  declarations : List Statement
  partials : List Statement
  templates : List Statement
  closing : List Statement

/-- The statements of a fragment in the order they are written. -/
def Fragment.statements (fragment : Fragment) : List Statement :=
  fragment.opening ++ fragment.declarations ++ fragment.partials ++ fragment.templates ++
    fragment.closing

/-- The text of a fragment. -/
def Fragment.render (separator : String) (fragment : Fragment) : String :=
  Statement.render separator fragment.statements

/-- Work on a bundle. What it changed before a failure stays changed. -/
abbrev Assembling := ExceptT Failure (StateM Bundle)

namespace Bundle

/-- A bundle with nothing in it. -/
def start (options : Options) : Bundle := ⟨options, .empty, [], 0, []⟩

/-- The report of a bundle. -/
def report (bundle : Bundle) : Report :=
  ⟨bundle.options.outputPath, bundle.compiled, bundle.skipped⟩

/-- The bundle with one more template skipped. -/
def skip (bundle : Bundle) (relative : String) : Bundle :=
  { bundle with skipped := bundle.skipped ++ [relative] }

/-- The bundle with one more template compiled. -/
def count (bundle : Bundle) : Bundle := { bundle with compiled := bundle.compiled + 1 }

/-- Passes an outcome on. -/
def pass {α : Type} (outcome : Except Failure α) : Assembling α := fun bundle => (outcome, bundle)

/-- The node shim is written. -/
def hasNodeShim (options : Options) : Bool := options.node && options.usesNamespace

/-- The openings of the wrappers: CommonJS, then AMD, then the node shim. -/
def opening (environment : Environment) (options : Options) (name ast compiled : Value) :
    Except Failure (List Statement) := do
  let commonjs := if options.commonjs then [.commonjsOpen options.runtime] else []
  let amd ←
    if options.amd.isOn then do
      let dependencies ← options.amd.dependencies id environment name ast compiled
      .ok [Statement.amdOpen dependencies options.runtime]
    else .ok []
  let node :=
    if hasNodeShim options then [.nodeGlobal, .nodeRuntime options.runtime] else []
  .ok (commonjs ++ amd ++ node)

/-- The closings of the wrappers, from the innermost one out. -/
def closing (options : Options) (registry : Namespace.Registry) (target : List String) :
    List Statement :=
  let node := if hasNodeShim options ∧ target ≠ [] then [.nodeExport target] else []
  let shared := registry.globalNamespace
  let amd :=
    if options.amd.isOn then
      (if options.usesNamespace ∧ shared ≠ "" then [.returnShared shared] else []) ++ [.amdClose]
    else []
  let commonjs :=
    if options.commonjs then
      (if options.usesNamespace ∧ target ≠ [] then [.returnLast target] else []) ++
        [.commonjsClose]
    else []
  node ++ amd ++ commonjs

/-- Resolves the namespace that a path or a function's answer names for a file. -/
def resolve (answer : Value) (file : String) : Assembling Namespace.Resolution := do
  let bundle ← get
  let (outcome, registry) := bundle.registry.resolveAnswer answer file
  match outcome with
  | .error fault => throw (.config fault)
  | .ok resolution =>
      set { bundle with registry, target := resolution.target }
      pure resolution

/-- Resolves the namespace of a file by a rule. No namespace has no segments. -/
def resolveBy (environment : Environment) (rule : NamespaceRule) (file : String) :
    Assembling Namespace.Resolution := do
  match rule with
  | .off =>
      modify fun bundle => { bundle with target := [] }
      pure ⟨[], []⟩
  | .fixed path => resolve (.text path) file
  | .computed function => do
      let answer ← pass (environment.call function [.text file])
      resolve answer file

/-- The statement for what had to be declared, if anything had to be. -/
def declarations (resolution : Namespace.Resolution) : List Statement :=
  if resolution.fresh = [] then [] else [.declare resolution.fresh]

/-- The statements before any fragment. Only a wrapped output has them; a fixed namespace is
declared among them, so that a bundle without templates has it too. -/
def preamble (environment : Environment) : Assembling (List Statement) := do
  let options := (← get).options
  match options.wrapScope with
  | .fragment => pure []
  | .output => do
      let lines ← pass (opening environment options (.text options.outputFile) .null .null)
      match options.namespaceRule with
      | .fixed path => do
          let resolution ← resolve (.text path) options.outputPath.toString
          pure (lines ++ declarations resolution)
      | _ => pure lines

/-- The statements after the last fragment. -/
def ending (bundle : Bundle) : List Statement :=
  match bundle.options.wrapScope with
  | .fragment => []
  | .output => closing bundle.options bundle.registry bundle.target

/-- The name of a template: its base name, or what a function answers for its file. -/
def templateName (environment : Environment) (options : Options) (template : Template) :
    Except Failure Value :=
  match if template.isPartial then options.processPartialName else options.processName with
  | some function => environment.call function [.text template.file]
  | none => .ok (.text template.baseName)

/-- A name is written as a literal, and must have one. -/
def checkName (name : Value) : Except Failure Unit :=
  match name.writingFault? Value.depthLimit with
  | some fault => .error (.ofWriting fault)
  | none => .ok ()

/-- The statement for a template that goes into no namespace. -/
def plainTemplate (options : Options) (body : String) : Statement :=
  if options.commonjs then .returnTemplate body
  else if options.amd.isOn then .returnTemplateBare body
  else .evaluate body

/-- What one template adds between the openings and closings of its fragment. -/
structure Core where
  declarations : List Statement
  partials : List Statement
  templates : List Statement

/-- The declarations and the one registration or assignment of a template. -/
def core (environment : Environment) (template : Template) (name : Value) (body : String) :
    Assembling Core := do
  let options := (← get).options
  if template.isPartial then
    if options.partialsUseNamespace then
      let resolution ← resolveBy environment options.namespaceRule template.file
      pass (checkName name)
      pure ⟨declarations resolution,
        [.registerIn options.runtime name resolution.target body], []⟩
    else
      pass (checkName name)
      pure ⟨[], [.register options.runtime name body], []⟩
  else if options.usesNamespace then
    let resolution ← resolveBy environment options.namespaceRule template.file
    pass (checkName name)
    pure ⟨declarations resolution, [], [.assign resolution.target name body]⟩
  else pure ⟨[], [], [plainTemplate options body]⟩

/-- The fragment of one compiled template. -/
def assemble (environment : Environment) (template : Template) (body : String) (ast : Value) :
    Assembling Fragment := do
  let options := (← get).options
  let name ← pass (templateName environment options template)
  let core ← core environment template name body
  match options.wrapScope with
  | .output => pure ⟨name, [], core.declarations, core.partials, core.templates, []⟩
  | .fragment => do
      let lines ← pass (opening environment options name ast (.text body))
      let bundle ← get
      pure ⟨name, lines, core.declarations, core.partials, core.templates,
        closing options bundle.registry bundle.target⟩

/-- What is told of declarations made between two states of a bundle. -/
def declarationEvents (before after : Bundle) : List Event :=
  let count := after.registry.declared.length - before.registry.declared.length
  if count = 0 then []
  else [.log ⟨.debug, "Declared " ++ toString count ++ " namespace(s) for " ++
    Namespace.expression after.target⟩]

/-- What is told of an assembled template. -/
def assembledEvent (template : Template) (name : Value) : Event :=
  .log ⟨.debug, "Assembled " ++ (if template.isPartial then "partial " else "template ") ++
    name.quotedForm ++ " from " ++ template.relative⟩

end Bundle

end TemplateBundle
