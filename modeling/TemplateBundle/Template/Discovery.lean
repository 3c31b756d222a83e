import TemplateBundle.Options.Basic
import TemplateBundle.Program.Basic

/-!
Contract: the templates of an input directory.

Owns: which names are template names, the base name of a template, which templates are
partials, and the order of templates.
-/

namespace TemplateBundle

/-- A template that was found. -/
structure Template where
  path : Path
  /-- The path below the input directory. -/
  relative : String
  baseName : String
  isPartial : Bool
deriving DecidableEq

/-- The path of a template as functions are given it. -/
def Template.file (template : Template) : String := template.path.toString

namespace Template

/-- A file name without its last ending. -/
def stripExtension (name : String) : String :=
  match Text.cutAtLast? '.' name with
  | some (stem, _) => stem
  | none => name

/-- The name of a partial: without its ending and without one leading underscore. -/
def partialName (name : String) : String :=
  match (stripExtension name).toList with
  | '_' :: rest => String.ofList rest
  | _ => stripExtension name

/-- A name ends with an accepted ending and is longer than it. -/
def isTemplateName (name : String) (extensions : List String) : Bool :=
  extensions.any fun extension =>
    extension.toList.isSuffixOf name.toList && extension.length < name.length

/-- A name put in its place among sorted ones. -/
def insertName (name : String) : List String → List String
  | [] => [name]
  | first :: rest => if first < name then first :: insertName name rest else name :: first :: rest

/-- Names in the order of their code points. -/
def sortNames (names : List String) : List String := names.foldr insertName []

/-- The template at a relative path of an input directory. -/
def ofRelative (options : Options) (inputDir : Path) (relative : String) : Template :=
  let name := (Path.ofString relative).name
  let path := inputDir.join relative
  let isPartial := options.partialsPathRegex.pattern.isFoundIn path.toString &&
    options.partialRegex.pattern.isFoundIn name
  ⟨path, relative, if isPartial then partialName name else stripExtension name, isPartial⟩

/-- The templates among some relative paths: those with a template name that are regular
files. Paths that are none of the kind are passed over. -/
def classify (options : Options) (inputDir : Path) : List String → Work (List Template)
  | [] => pure []
  | relative :: rest => do
      if isTemplateName (Path.ofString relative).name options.extensions then
        let path := inputDir.join relative
        match ← Program.perform (.inspect path) with
        | .ok .regular => do
            let templates ← classify options inputDir rest
            pure (ofRelative options inputDir relative :: templates)
        | .error .unusablePath =>
            throw (.mishap .wrongValue FileFault.unusablePath.reason)
        | _ => do
            Program.log .debug ("Skipping non-regular entry " ++ path.toString)
            classify options inputDir rest
      else classify options inputDir rest

/-- The templates of a task, in the order of their relative paths. -/
def discover (options : Options) : Work (List Template) := do
  match ← Program.perform (.list options.inputDir options.recursive) with
  | .error fault => throw (Failure.ofFile (.directory options.inputDir) fault)
  | .ok names => do
      let templates ← classify options options.inputDir (sortNames names)
      let partials := (templates.filter (·.isPartial)).length
      Program.log .info ("Number of templates to process: " ++ toString templates.length ++ " (" ++
        toString partials ++ " partial(s)) in " ++ options.inputDir.toString)
      pure templates

end Template

end TemplateBundle
