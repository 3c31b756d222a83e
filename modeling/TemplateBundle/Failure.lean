import TemplateBundle.FileTree.Fault
import TemplateBundle.Path
import TemplateBundle.Text.Numeral
import TemplateBundle.Value.Display
import TemplateBundle.Value.Document

/-!
Contract: everything that can go wrong, by its cause.

Owns: the faults of a configuration, the failures of a task, and the wording of both.
-/

namespace TemplateBundle

/-- What is wrong with a configuration. -/
inductive ConfigFault where
  /-- The namespace path does not have the form of one. -/
  | malformedNamespace (path : String)
  /-- A segment of the namespace path is empty. -/
  | emptySegment (path : String)
  /-- The namespace path has no segment but the leading one that is ignored. -/
  | noSegments (path : String)
  /-- A computed namespace is no text. -/
  | namespaceAnswer (kind : String) (file : String)
  /-- A computed dependency is no text, or an empty one. -/
  | dependencyAnswer (answer : Value)
  /-- The value does not say how to declare dependencies. -/
  | unsupportedDependency (option : Value)
  | blankDependency
  | blankDependencyItem
  | blankOutputFile
  | noExtensions
  | badExtension (extension : String)
  | badRuntime (name : String)
  | partialsWithoutNamespace
  /-- A count in a pattern has more digits than are read. -/
  | longNumeral (digits : Nat)
  /-- A pattern asks for all characters and for those of ASCII alone. -/
  | twoAlphabets
  /-- A reference to a function is not of the form `module:attribute`. -/
  | malformedReference (reference : String)
  /-- The module of a reference is not there. -/
  | unknownModule (module : String) (cause : String)
  /-- The module of a reference has no such attribute. -/
  | unknownAttribute (module member : String)
  /-- What a reference names is no function. -/
  | notCallable (reference : String)
  /-- The options of a task are no mapping. -/
  | notMapping (kind : String)
  /-- A path and a function are both given for the namespace. -/
  | twoNamespaces
  | fileNotFound (path : Path)
  | invalidFile (path : Path)
  | emptyFile (path : Path)
  | tasksNotList (path : Path)
  | unexpectedTopLevel (path : Path)
deriving DecidableEq

/-- The wording of a configuration fault. -/
def ConfigFault.message : ConfigFault → String
  | .malformedNamespace path => "Malformed namespace path: " ++ Text.quoted path
  | .emptySegment path => "Empty segment in namespace path: " ++ Text.quoted path
  | .noSegments path => "Namespace path has no segments: " ++ Text.quoted path
  | .namespaceAnswer kind file =>
      "Namespace callable returned " ++ kind ++ " for " ++ file ++ ", expected str"
  | .dependencyAnswer answer =>
      "amd callable must return a module name, got " ++ answer.quotedForm
  | .unsupportedDependency option => "Unsupported amd option: " ++ option.quotedForm
  | .blankDependency => "amd dependency name must not be empty"
  | .blankDependencyItem => "amd dependency list must not contain empty names"
  | .blankOutputFile => "output_file must not be empty"
  | .noExtensions => "at least one template extension is required"
  | .badExtension extension => "Invalid template extension: " ++ Text.quoted extension
  | .badRuntime name => "Invalid runtime identifier: " ++ Text.quoted name
  | .partialsWithoutNamespace => "partials_use_namespace requires a namespace"
  | .longNumeral digits =>
      "Exceeds the limit (" ++ toString Text.digitLimit ++
        " digits) for integer string conversion: value has " ++ toString digits ++
        " digits; use sys.set_int_max_str_digits() to increase the limit"
  | .twoAlphabets => "ASCII and UNICODE flags are incompatible"
  | .malformedReference reference =>
      "Expected 'module:attribute', got " ++ Text.quoted reference
  | .unknownModule module cause => "Cannot import " ++ Text.quoted module ++ ": " ++ cause
  | .unknownAttribute module member =>
      Text.quoted module ++ " has no attribute " ++ Text.quoted member
  | .notCallable reference => Text.quoted reference ++ " is not callable"
  | .notMapping kind => "Task options must be a mapping, got " ++ kind
  | .twoNamespaces => "Set either namespace or namespace_function, not both"
  | .fileNotFound path => "Config file not found: " ++ path.toString
  | .invalidFile path => "Invalid YAML in " ++ path.toString
  | .emptyFile path => "Config file is empty: " ++ path.toString
  | .tasksNotList path => "'tasks' in " ++ path.toString ++ " must be a non-empty list"
  | .unexpectedTopLevel path => "Unexpected top-level YAML value in " ++ path.toString

/-- A step into a nested value: a name, or a position in a list. -/
inductive Locator where
  | name (text : String)
  | position (index : Int)
deriving DecidableEq, Repr

/-- The kinds of failure that are no fault of the bundle's own: of a function that a task calls, of
a module, of bytes that are no text, or of a text that goes beyond what can be read or written. -/
inductive Mishap where
  | wrongType
  | wrongValue
  | outOfRange
  | missingAttribute
  | missingKey
  | undecodable
  /-- A text has a part that is no character. -/
  | unencodable
  /-- A number is out of all range. -/
  | overflow
  /-- Parts are nested too deeply to be read. -/
  | tooDeep
  | file (fault : FileFault)
  /-- A failure of another kind, by the name of the kind. -/
  | foreign (name : String)
deriving DecidableEq, Repr

/-- Why one value of a task's options is refused. -/
inductive OptionProblem where
  | string
  | path
  | boolean
  | booleanParsing
  | literal
  | function
  | list
  | tuple
  | dictionary
  | pattern
  | patternNotation
  | floatParsing
  | notAbove
  | unknownName
  | nameNotText
  /-- The value breaks a rule of the bundle. -/
  | rule (fault : ConfigFault)
  /-- The reading of the options broke off at the value. -/
  | brokenOff (kind : Mishap) (text : String)
deriving DecidableEq

/-- A refused value: where it stands and why it is refused. -/
structure OptionFault where
  location : List Locator
  problem : OptionProblem
deriving DecidableEq

/-- How a task, or a part of one, fails. -/
inductive Failure where
  | config (fault : ConfigFault)
  /-- The options of a task are refused. -/
  | options (faults : List OptionFault)
  /-- The input directory cannot be read. -/
  | directory (path : Path) (fault : FileFault)
  /-- The output directory cannot be made. -/
  | outputDirectory (path : Path) (fault : FileFault)
  /-- The output file cannot be written. -/
  | write (path : Path) (fault : FileFault)
  /-- A template cannot be compiled. -/
  | template (text : String) (path : Option String)
  /-- The compiler cannot be used. -/
  | compilerUnavailable (text : String)
  | mishap (kind : Mishap) (text : String)
  /-- The work was called off. -/
  | cancelled
deriving DecidableEq

/-- The failure of refused options. A reading that broke off has said nothing of the other values. -/
def Failure.ofOptionFaults (faults : List OptionFault) : Failure :=
  let breaks := faults.filterMap fun fault =>
    match fault.problem with
    | .brokenOff kind text => some (.mishap kind text)
    | _ => none
  breaks.head?.getD (.options faults)

/-- The wording of a failure. -/
def Failure.message : Failure → String
  | .config fault => fault.message
  | .options _ => "Invalid task options"
  | .directory path fault =>
      "Failed to read template directory " ++ path.toString ++ ": " ++ fault.reason
  | .outputDirectory path fault =>
      "Failed to create output directory " ++ path.toString ++ ": " ++ fault.reason
  | .write path fault => "Failed to write " ++ path.toString ++ ": " ++ fault.reason
  | .template text path =>
      match path with
      | none => text
      | some path => if path = "" then text else path ++ ": " ++ text
  | .compilerUnavailable text => text
  | .mishap _ text => text
  | .cancelled => ""

/-- The failure is one that the command line reports instead of breaking off. -/
def Failure.isExpected : Failure → Bool
  | .mishap _ _ => false
  | .cancelled => false
  | _ => true

/-- The failure of writing a value that has no document. -/
def Failure.ofWriting : Value.WritingFault → Failure
  | .formless kind =>
      .mishap .wrongType ("Object of type " ++ kind ++ " is not JSON serializable")
  | .nameless kind =>
      .mishap .wrongType ("keys must be str, int, float, bool or None, not " ++ kind)
  | .longNumeral =>
      .mishap .wrongValue ("Exceeds the limit (" ++ toString Text.digitLimit ++
        " digits) for integer string conversion")
  | .tooDeep => .mishap .tooDeep "maximum recursion depth exceeded while encoding a JSON object"

/-- A step that was given an unusable path fails as a wrong value; every other fault of a
step fails as the caller says. -/
def Failure.ofFile (failure : FileFault → Failure) (fault : FileFault) : Failure :=
  if fault = .unusablePath then .mishap .wrongValue fault.reason else failure fault

end TemplateBundle
