import TemplateBundle.Path
import TemplateBundle.Pattern.Notation
import TemplateBundle.Value.Basic

/-!
Contract: the options of one task, from an input directory to an output file.

Owns: the options with their defaults, the names of the options in both spellings, and
what follows from the options alone.

Does not own: how raw values become options (`Options.Reading`).
-/

namespace TemplateBundle

/-- How the namespace of a template is found. -/
inductive NamespaceRule where
  /-- Templates are assigned to no namespace. -/
  | off
  /-- Every template goes to one path. -/
  | fixed (path : String)
  /-- A function of the template's file names the path. -/
  | computed (function : Callable)
deriving DecidableEq, Repr

/-- How the dependencies of an AMD module are declared. A list in options holds names; one that
is taken as it is given may hold items of another type. -/
inductive DependencyRule (Item : Type) where
  /-- There is no AMD wrapper. -/
  | off
  /-- The module depends on the template runtime. -/
  | standard
  | named (dependency : String)
  | listed (dependencies : List Item)
  /-- A function of name, syntax tree and compiled text names the dependency. -/
  | computed (function : Callable)
deriving DecidableEq, Repr

/-- What a wrapper is put around. -/
inductive WrapScope where
  | output
  | fragment
deriving DecidableEq, Repr

/-- The helpers that templates may rely on: a list of names, or names with a flag. -/
inductive KnownHelpers where
  | listed (names : List String)
  | flagged (entries : List (String × Bool))
deriving DecidableEq, Repr

/-- A pattern together with the text that notes it. -/
structure NotedPattern where
  source : String
  pattern : Pattern
  noted : Pattern.ofString source = .ok pattern

/-- The pattern of a text, with the text. -/
def NotedPattern.ofString (source : String) : Except Pattern.NotationFault NotedPattern :=
  match noted : Pattern.ofString source with
  | .ok pattern => .ok ⟨source, pattern, noted⟩
  | .error fault => .error fault

/-- The pattern that any character matches. -/
def NotedPattern.anyCharacter : NotedPattern := ⟨".", .anyCharacter false, by rfl⟩

/-- The pattern of names with a leading underscore. -/
def NotedPattern.leadingUnderscore : NotedPattern :=
  ⟨"^_", .sequence (.start false) (.letter ⟨.unicode, false⟩ false 95), by rfl⟩

/-- An option. -/
inductive Field where
  | inputDir
  | outputFile
  | outputDir
  | namespaceRule
  | separator
  | wrapped
  | amd
  | commonjs
  | node
  | knownHelpers
  | knownHelpersOnly
  | partialsPathRegex
  | partialRegex
  | partialsUseNamespace
  | processContent
  | processName
  | processPartialName
  | processAst
  | compilerOptions
  | extensions
  | recursive
  | runtime
  | wrapScope
deriving DecidableEq, Repr

namespace Field

/-- Every option. -/
def all : List Field := [
  .inputDir, .outputFile, .outputDir, .namespaceRule, .separator, .wrapped, .amd, .commonjs,
  .node, .knownHelpers, .knownHelpersOnly, .partialsPathRegex, .partialRegex,
  .partialsUseNamespace, .processContent, .processName, .processPartialName, .processAst,
  .compilerOptions, .extensions, .recursive, .runtime, .wrapScope]

/-- The plain spelling of an option. -/
def name : Field → String
  | .inputDir => "input_dir"
  | .outputFile => "output_file"
  | .outputDir => "output_dir"
  | .namespaceRule => "namespace"
  | .separator => "separator"
  | .wrapped => "wrapped"
  | .amd => "amd"
  | .commonjs => "commonjs"
  | .node => "node"
  | .knownHelpers => "known_helpers"
  | .knownHelpersOnly => "known_helpers_only"
  | .partialsPathRegex => "partials_path_regex"
  | .partialRegex => "partial_regex"
  | .partialsUseNamespace => "partials_use_namespace"
  | .processContent => "process_content"
  | .processName => "process_name"
  | .processPartialName => "process_partial_name"
  | .processAst => "process_ast"
  | .compilerOptions => "compiler_options"
  | .extensions => "extensions"
  | .recursive => "recursive"
  | .runtime => "runtime"
  | .wrapScope => "wrap_scope"

/-- The spelling of an option in joined words. It goes before the plain one. -/
def joinedName : Field → String
  | .inputDir => "inputDir"
  | .outputFile => "outputFile"
  | .outputDir => "outputDir"
  | .knownHelpers => "knownHelpers"
  | .knownHelpersOnly => "knownHelpersOnly"
  | .partialsPathRegex => "partialsPathRegex"
  | .partialRegex => "partialRegex"
  | .partialsUseNamespace => "partialsUseNamespace"
  | .processContent => "processContent"
  | .processName => "processName"
  | .processPartialName => "processPartialName"
  | .processAst => "processAST"
  | .compilerOptions => "compilerOptions"
  | .wrapScope => "wrapScope"
  | field => field.name

end Field

/-- The options of a task. -/
structure Options where
  inputDir : Path := ⟨0, ["templates"]⟩
  outputFile : String := "compiled-templates.js"
  outputDir : Path := .here
  namespaceRule : NamespaceRule := .fixed "JST"
  separator : String := "\n\n"
  /-- Compiled templates are passed to the runtime. -/
  wrapped : Bool := true
  amd : DependencyRule String := .off
  commonjs : Bool := false
  node : Bool := false
  knownHelpers : KnownHelpers := .listed []
  knownHelpersOnly : Bool := false
  /-- Partials are the templates whose path and whose file name match. -/
  partialsPathRegex : NotedPattern := .anyCharacter
  partialRegex : NotedPattern := .leadingUnderscore
  partialsUseNamespace : Bool := false
  processContent : Option Callable := none
  processName : Option Callable := none
  processPartialName : Option Callable := none
  processAst : Option Callable := none
  compilerOptions : Entries := []
  extensions : List String := [".handlebars", ".hbs"]
  recursive : Bool := false
  runtime : String := "Handlebars"
  wrapScope : WrapScope := .output
  /-- The options that were given. -/
  given : List Field := []

namespace Options

/-- Templates are assigned to a namespace. -/
def usesNamespace (options : Options) : Bool := options.namespaceRule ≠ .off

/-- The output file. -/
def outputPath (options : Options) : Path := options.outputDir.join options.outputFile

/-- The known helpers with their flags. Of a repeated name the last flag counts. -/
def knownHelpersMap (options : Options) : Entries :=
  match options.knownHelpers with
  | .listed names => Entries.ofPairs (names.map fun name => (.text name, .bool true))
  | .flagged entries => Entries.ofPairs (entries.map fun entry => (.text entry.1, .bool entry.2))

end Options

end TemplateBundle
