import TemplateBundle.Options.Reading
import TemplateBundle.Options.Reference

/-!
Contract: the options of a task from a raw value, and options changed afterwards.

Owns: reading a raw value as a task, options written back as raw values, which not every function
outlasts, and overriding some of them.
-/

namespace TemplateBundle

namespace Callable

/-- A function, or none, as a raw value. -/
def optionValue : Option Callable → Value
  | none => .null
  | some function => .callable function

end Callable

namespace Value

mutual

/-- A value as it is written back: a function that is a value of another kind too is that value. -/
def written (catalogue : Catalogue) : Value → Value
  | .callable function =>
      match (catalogue.guise function).written with
      | .value value => value
      | _ => .callable function
  | .list items => .list (writtenItems catalogue items)
  | .map entries => .map (writtenEntries catalogue entries)
  | value => value

/-- Every item, written back. -/
def writtenItems (catalogue : Catalogue) : List Value → List Value
  | [] => []
  | item :: rest => written catalogue item :: writtenItems catalogue rest

/-- Every value of a map, written back under its key. -/
def writtenEntries (catalogue : Catalogue) : List (Value × Value) → List (Value × Value)
  | [] => []
  | (key, value) :: rest => (key, written catalogue value) :: writtenEntries catalogue rest

end

mutual

/-- How writing a value back fails: as the first function in it does that breaks off. -/
def breaks? (catalogue : Catalogue) : Value → Option Failure
  | .callable function =>
      match (catalogue.guise function).written with
      | .failing kind reason => some (.mishap kind reason)
      | _ => none
  | .list items => breaksIn? catalogue items
  | .map entries => breaksUnder? catalogue entries
  | _ => none

/-- How writing the items of a list back fails. -/
def breaksIn? (catalogue : Catalogue) : List Value → Option Failure
  | [] => none
  | item :: rest => (breaks? catalogue item).or (breaksIn? catalogue rest)

/-- How writing the values of a map back fails. -/
def breaksUnder? (catalogue : Catalogue) : List (Value × Value) → Option Failure
  | [] => none
  | (_, value) :: rest => (breaks? catalogue value).or (breaksUnder? catalogue rest)

end

end Value

namespace Field

/-- The value of an option, as a raw value that is read as the same. -/
def value (options : Options) : Field → Value
  | .inputDir => .text options.inputDir.toString
  | .outputFile => .text options.outputFile
  | .outputDir => .text options.outputDir.toString
  | .namespaceRule =>
      match options.namespaceRule with
      | .off => .bool false
      | .fixed path => .text path
      | .computed function => .callable function
  | .separator => .text options.separator
  | .wrapped => .bool options.wrapped
  | .amd =>
      match options.amd with
      | .off => .bool false
      | .standard => .bool true
      | .named dependency => .text dependency
      | .listed dependencies => .list (dependencies.map .text)
      | .computed function => .callable function
  | .commonjs => .bool options.commonjs
  | .node => .bool options.node
  | .knownHelpers =>
      match options.knownHelpers with
      | .listed names => .list (names.map .text)
      | .flagged entries => .map (entries.map fun entry => (.text entry.1, .bool entry.2))
  | .knownHelpersOnly => .bool options.knownHelpersOnly
  | .partialsPathRegex => .text options.partialsPathRegex.source
  | .partialRegex => .text options.partialRegex.source
  | .partialsUseNamespace => .bool options.partialsUseNamespace
  | .processContent => Callable.optionValue options.processContent
  | .processName => Callable.optionValue options.processName
  | .processPartialName => Callable.optionValue options.processPartialName
  | .processAst => Callable.optionValue options.processAst
  | .compilerOptions => .map options.compilerOptions
  | .extensions => .list (options.extensions.map .text)
  | .recursive => .bool options.recursive
  | .runtime => .text options.runtime
  | .wrapScope =>
      match options.wrapScope with
      | .output => .text "output"
      | .fragment => .text "fragment"

end Field

namespace Options

/-- The options of a task from a raw value: references first, then the values. -/
def ofValue (catalogue : Catalogue) : Value → Except Failure Options
  | .map raw =>
      match resolveReferences catalogue raw with
      | .error failure => .error failure
      | .ok resolved =>
          match ofEntries resolved with
          | .ok options => .ok options
          | .error faults => .error (.ofOptionFaults faults)
  | other => .error (.config (.notMapping other.kindName))

/-- The options that were given, written back as raw options. -/
def toEntries (catalogue : Catalogue) (options : Options) : Entries :=
  options.given.map fun field => (.text field.name, (field.value options).written catalogue)

/-- How writing options back fails: as the first option does that was given and fails. -/
def breaks? (catalogue : Catalogue) (options : Options) : Option Failure :=
  options.given.findSome? fun field => (field.value options).breaks? catalogue

/-- The options with some of them replaced. -/
def override (catalogue : Catalogue) (options : Options) (changes : Entries) :
    Except Failure Options :=
  if changes = [] then .ok options
  else
    match options.breaks? catalogue with
    | some failure => .error failure
    | none => ofValue catalogue (.map ((options.toEntries catalogue).update changes))

/-- Every member of a list as the options of a task. -/
def ofValues (catalogue : Catalogue) : List Value → Except Failure (List Options)
  | [] => .ok []
  | value :: rest =>
      match ofValue catalogue value with
      | .error failure => .error failure
      | .ok options =>
          match ofValues catalogue rest with
          | .ok more => .ok (options :: more)
          | .error failure => .error failure

/-- The options of one task or of several. Nothing at all is one task with the defaults;
a text is read as a list of its characters. -/
def tasksOfValue (catalogue : Catalogue) : Value → Except Failure (List Options)
  | .null => .ok [{}]
  | .map raw => (ofValue catalogue (.map raw)).map fun options => [options]
  | .list items => ofValues catalogue items
  | .text content =>
      ofValues catalogue (content.toList.map fun character => .text (String.singleton character))
  | other => .error (.mishap .wrongType (Text.quoted other.kindName ++ " object is not iterable"))

end Options

end TemplateBundle
