import TemplateBundle.Bundle.Assembly
import TemplateBundle.OutputStream
import TemplateBundle.Template.Compilation

/-!
Contract: one task, from an input directory to an output file.

Owns: the order of its steps: the compiler is asked for, the output directory is made, the
preamble is written, the templates are found, compiled and written one after the other,
and the ending is written. Templates that cannot be read or compiled are skipped.
-/

namespace TemplateBundle

/-- A task under way: its bundle and its output file. -/
structure TaskState where
  bundle : Bundle
  stream : OutputStream

namespace Task

/-- Templates are parsed even if no function asks for their syntax trees: a computed
dependency is given them where each fragment has a wrapper. -/
def wantsTree (options : Options) : Bool :=
  match options.wrapScope, options.amd with
  | .fragment, .computed _ => true
  | _, _ => false

/-- Passes the outcome of a write on, with the stream as it is left. -/
def written (result : Except Failure Unit × OutputStream) : Work OutputStream :=
  match result with
  | (.ok (), stream) => pure stream
  | (.error failure, _) => throw failure

/-- Does the work on a bundle, and tells what it declared. -/
def assembling {α : Type} (bundle : Bundle) (work : Assembling α) : Work (α × Bundle) := do
  let (outcome, changed) := work.run bundle
  Program.tell (Bundle.declarationEvents bundle changed)
  match outcome with
  | .ok value => pure (value, changed)
  | .error failure => throw failure

/-- The compiled form of a template, or none if it has to be skipped. -/
def compiled? (environment : Environment) (options : Options) (template : Template) :
    Work (Option Compiled) := do
  match ← readText template.path with
  | .error _ => do
      Program.log .warning
        ("Skipping " ++ template.path.toString ++ ": cannot read template")
      pure none
  | .ok source => do
      let outcome ← ExceptT.lift (Compilation.compile environment options (wantsTree options)
        source template.file).toWork.run
      match outcome with
      | .ok compiled => pure (some compiled)
      | .error (.template text _) => do
          Program.log .warning
            ("Handlebars failed to compile " ++ template.path.toString ++ ": " ++ text)
          pure none
      | .error failure => throw failure

/-- Compiles one template and writes its fragment. -/
def addTemplate (environment : Environment) (state : TaskState) (template : Template) :
    Work TaskState := do
  let options := state.bundle.options
  match ← compiled? environment options template with
  | none => pure { state with bundle := state.bundle.skip template.relative }
  | some compiled => do
      let (fragment, bundle) ← assembling state.bundle
        (Bundle.assemble environment template compiled.body compiled.ast)
      Program.tell [Bundle.assembledEvent template fragment.name]
      let stream ← written (← state.stream.append (fragment.render options.separator))
      pure ⟨bundle.count, stream⟩

/-- Compiles and writes templates in order. -/
def addTemplates (environment : Environment) : TaskState → List Template → Work TaskState
  | state, [] => pure state
  | state, template :: rest => do
      let state ← addTemplate environment state template
      addTemplates environment state rest

/-- Makes the output file and writes the preamble. -/
def openOutput (environment : Environment) (options : Options) : Work TaskState := do
  let path := options.outputPath
  ensureDirectory path.parent
  let (lines, bundle) ← assembling (Bundle.start options) (Bundle.preamble environment)
  let stream ← written (← (OutputStream.ofPath path options.separator).start
    (Statement.render options.separator lines))
  pure ⟨bundle, stream⟩

/-- Writes the ending. -/
def closeOutput (state : TaskState) : Work Unit := do
  let text := Statement.render state.bundle.options.separator state.bundle.ending
  let _ ← written (← state.stream.close text)
  pure ()

/-- Tells which templates were skipped, if any were, and how many were compiled. -/
def tellEnd (bundle : Bundle) : Work Unit := do
  let options := bundle.options
  if bundle.skipped ≠ [] then
    Program.log .warning ("Skipped " ++ toString bundle.skipped.length ++ " template(s) in " ++
      options.inputDir.toString ++ ": " ++ String.intercalate ", " bundle.skipped)
  Program.log .info ("Precompiled " ++ toString bundle.compiled ++ " template(s) from " ++
    options.inputDir.toString ++ " to " ++ options.outputPath.toString)

/-- The route of a task, as it is told. -/
def route (options : Options) : String :=
  options.inputDir.toString ++ " → " ++ options.outputPath.toString

/-- A task that can fail. -/
def work (environment : Environment) (options : Options) : Work Report := do
  match environment.compiler.available with
  | .error failure => throw failure
  | .ok () => pure ()
  Program.log .info ("Precompiling " ++ route options)
  let state ← openOutput environment options
  let templates ← Template.discover options
  let state ← addTemplates environment state templates
  closeOutput state
  tellEnd state.bundle
  pure state.bundle.report

/-- A task as a program. -/
def run (environment : Environment) (options : Options) : Program (Except Failure Report) :=
  (work environment options).run

end Task

end TemplateBundle
