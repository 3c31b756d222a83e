import TemplateBundle.Failure
import TemplateBundle.Namespace.Notation
import TemplateBundle.Options.Basic

/-!
Contract: raw values read as the options of a task.

Owns: the reader of each option, the spelling that is taken when both are given, the names
that are refused, and the rule that joins two options. All faults are reported, not only
the first.

Does not own: references to functions, which are replaced by functions before
(`Options.Reference`).
-/

namespace TemplateBundle

/-- The reading of one value. Locations of faults are relative to it. -/
abbrev Reading (α : Type) := Except (List OptionFault) α

namespace Reading

/-- The value itself is refused. -/
def refuse {α : Type} (problem : OptionProblem) : Reading α := .error [⟨[], problem⟩]

/-- A value that breaks a rule. -/
def broken {α : Type} (fault : ConfigFault) : Reading α := refuse (.rule fault)

/-- The faults of a part, seen from the whole. -/
def within {α : Type} (step : Locator) : Reading α → Reading α
  | .ok value => .ok value
  | .error faults =>
      .error (faults.map fun fault => { fault with location := step :: fault.location })

/-- The faults of a reading. -/
def faults {α : Type} : Reading α → List OptionFault
  | .ok _ => []
  | .error faults => faults

/-- The least number of 64 bits with a sign. -/
def leastWord : Int := -0x8000000000000000

/-- The whole number is one of 64 bits with a sign. -/
def fitsWord (number : Int) : Bool := leastWord ≤ number && number < -leastWord

/-- The step to an entry of a map: booleans and the numbers of 64 bits are positions. -/
def keyLocator : Value → Locator
  | .text name => .name name
  | .int number => if fitsWord number then .position number else .name (toString number)
  | .bool flag => .position (if flag then 1 else 0)
  | key => .name key.quotedForm

/-- Reads every part, with all their faults. -/
def collect {α : Type} : List (Reading α) → Reading (List α)
  | [] => .ok []
  | .ok value :: rest => (collect rest).map (value :: ·)
  | .error faults :: rest => .error (faults ++ (collect rest).faults)

/-- A text. -/
def text : Value → Reading String
  | .text content => .ok content
  | _ => refuse .string

/-- A path. -/
def path : Value → Reading Path
  | .text content => .ok (Path.ofString content)
  | _ => refuse .path

/-- The words for yes and no. -/
def flagOfText? (content : String) : Option Bool :=
  let word := content.toLower
  if ["1", "on", "t", "true", "y", "yes"].contains word then some true
  else if ["0", "off", "f", "false", "n", "no"].contains word then some false
  else none

/-- A flag from a whole number: zero or one. Another number of 64 bits is a flag that cannot be
read; what is beyond them is no flag at all. -/
def flagOfWhole (number : Int) : Reading Bool :=
  if number = 1 then .ok true
  else if number = 0 then .ok false
  else if fitsWord number then refuse .booleanParsing
  else refuse .boolean

/-- A flag: a boolean, zero or one, or a word for yes or no. The least number of 64 bits is no
flag at all where it is not given as a whole one. -/
def flag : Value → Reading Bool
  | .bool value => .ok value
  | .text content =>
      match flagOfText? content with
      | some value => .ok value
      | none => refuse .booleanParsing
  | .int number => flagOfWhole number
  | .real number =>
      match number.toInt? with
      | some whole => if whole = leastWord then refuse .boolean else flagOfWhole whole
      | none => refuse .boolean
  | _ => refuse .boolean

/-- The positions of a list, each with its item. -/
def positions (items : List Value) : List (Nat × Value) :=
  (List.range items.length).zip items

/-- A list of texts. -/
def texts (problem : OptionProblem) : Value → Reading (List String)
  | .list items =>
      collect ((positions items).map fun item => within (.position item.1) (text item.2))
  | _ => refuse problem

/-- A map with texts for keys. -/
def textKeys {α : Type} (value : Value → Reading α) : Value → Reading (List (String × α))
  | .map entries => collect <| entries.map fun entry =>
      within (keyLocator entry.1) <|
        match within (.name "[key]") (text entry.1), value entry.2 with
        | .ok key, .ok item => .ok (key, item)
        | key, item => .error (key.faults ++ item.faults)
  | _ => refuse .dictionary

/-- A function, or none. -/
def function? : Value → Reading (Option Callable)
  | .null => .ok none
  | .callable function => .ok (some function)
  | _ => refuse .function

/-- Why a text that notes no pattern is refused. -/
def patternProblem : Pattern.NotationFault → OptionProblem
  | .malformed => .patternNotation
  | .tooGreat => .brokenOff .overflow "a number in a pattern is out of range"
  | .longCount digits => .rule (.longNumeral digits)
  | .twoAlphabets => .rule .twoAlphabets
  | .tooDeep => .brokenOff .tooDeep "a pattern is nested too deeply"

/-- A pattern. -/
def pattern : Value → Reading NotedPattern
  | .text source =>
      match NotedPattern.ofString source with
      | .ok found => .ok found
      | .error fault => refuse (patternProblem fault)
  | _ => refuse .pattern

/-- A namespace: none, a path that can be split, or a function. -/
def namespaceRule (value : Value) : Reading NamespaceRule :=
  match value with
  | .text content =>
      match Namespace.split (Text.strip content) with
      | .ok _ => .ok (.fixed (Text.strip content))
      | .error fault => broken fault
  | .callable function => .ok (.computed function)
  | other =>
      if other.wholeNumber? = some 0 then .ok .off
      else .error [⟨[.name "literal[False]"], .literal⟩, ⟨[.name "str"], .string⟩,
        ⟨[.name "callable"], .function⟩]

/-- A dependency: a flag, the name of one, a list of names, or a function. -/
def dependencyRule (value : Value) : Reading (DependencyRule String) :=
  match value with
  | .text name => if Text.isBlankText name then broken .blankDependency else .ok (.named name)
  | .callable function => .ok (.computed function)
  | other =>
      match texts .list other, flag other with
      | .ok names, _ =>
          if names.any Text.isBlankText then broken .blankDependencyItem else .ok (.listed names)
      | _, .ok value => .ok (if value then .standard else .off)
      | .error listFaults, .error flagFaults =>
          .error ((within (α := Bool) (.name "bool") (.error flagFaults)).faults ++
            [⟨[.name "str"], .string⟩] ++
            (within (α := Bool) (.name "list[str]") (.error listFaults)).faults ++
            [⟨[.name "callable"], .function⟩])

/-- Known helpers: a list of names, or names with flags. -/
def knownHelpers (value : Value) : Reading KnownHelpers :=
  match texts .list value, textKeys flag value with
  | .ok names, _ => .ok (.listed names)
  | _, .ok entries => .ok (.flagged entries)
  | .error listFaults, .error mapFaults =>
      .error ((within (α := Bool) (.name "list[str]") (.error listFaults)).faults ++
        (within (α := Bool) (.name "dict[str,bool]") (.error mapFaults)).faults)

/-- The name of an output file: not blank. -/
def outputFile (value : Value) : Reading String := do
  let name ← text value
  if Text.isBlankText name then broken .blankOutputFile else .ok name

/-- A file name's ending: a dot and something after it. -/
def isExtension (extension : String) : Bool :=
  extension.toList.head? == some '.' && 2 ≤ extension.length

/-- The endings of template files: at least one, and all of them endings. -/
def extensions (value : Value) : Reading (List String) := do
  let endings ← texts .tuple value
  if endings = [] then broken .noExtensions
  else
    match endings.find? fun ending => !isExtension ending with
    | some ending => broken (.badExtension ending)
    | none => .ok endings

/-- A name in the generated module. -/
def isRuntimeName (name : String) : Bool :=
  match name.toList with
  | [] => false
  | first :: rest =>
      (first.isAlpha || first = '_' || first = '$') &&
        rest.all fun character => Text.isWord character || character = '$'

/-- The name of the runtime. -/
def runtime (value : Value) : Reading String := do
  let name ← text value
  if isRuntimeName name then .ok name else broken (.badRuntime name)

/-- The scope of the wrappers. -/
def wrapScope : Value → Reading WrapScope
  | .text "output" => .ok .output
  | .text "fragment" => .ok .fragment
  | _ => refuse .literal

end Reading

namespace Field

/-- Reads the value of an option, as a change of the options. -/
def read (value : Value) : Field → Reading (Options → Options)
  | .inputDir => (Reading.path value).map fun found options => { options with inputDir := found }
  | .outputFile =>
      (Reading.outputFile value).map fun found options => { options with outputFile := found }
  | .outputDir => (Reading.path value).map fun found options => { options with outputDir := found }
  | .namespaceRule =>
      (Reading.namespaceRule value).map fun found options => { options with namespaceRule := found }
  | .separator => (Reading.text value).map fun found options => { options with separator := found }
  | .wrapped => (Reading.flag value).map fun found options => { options with wrapped := found }
  | .amd => (Reading.dependencyRule value).map fun found options => { options with amd := found }
  | .commonjs => (Reading.flag value).map fun found options => { options with commonjs := found }
  | .node => (Reading.flag value).map fun found options => { options with node := found }
  | .knownHelpers =>
      (Reading.knownHelpers value).map fun found options => { options with knownHelpers := found }
  | .knownHelpersOnly =>
      (Reading.flag value).map fun found options => { options with knownHelpersOnly := found }
  | .partialsPathRegex =>
      (Reading.pattern value).map fun found options => { options with partialsPathRegex := found }
  | .partialRegex =>
      (Reading.pattern value).map fun found options => { options with partialRegex := found }
  | .partialsUseNamespace =>
      (Reading.flag value).map fun found options => { options with partialsUseNamespace := found }
  | .processContent =>
      (Reading.function? value).map fun found options => { options with processContent := found }
  | .processName =>
      (Reading.function? value).map fun found options => { options with processName := found }
  | .processPartialName =>
      (Reading.function? value).map fun found options =>
        { options with processPartialName := found }
  | .processAst =>
      (Reading.function? value).map fun found options => { options with processAst := found }
  | .compilerOptions =>
      (Reading.textKeys .ok value).map fun found options =>
        { options with compilerOptions := found.map fun entry => (.text entry.1, entry.2) }
  | .extensions =>
      (Reading.extensions value).map fun found options => { options with extensions := found }
  | .recursive => (Reading.flag value).map fun found options => { options with recursive := found }
  | .runtime => (Reading.runtime value).map fun found options => { options with runtime := found }
  | .wrapScope =>
      (Reading.wrapScope value).map fun found options => { options with wrapScope := found }

/-- The spelling under which an option is given, with its value. -/
def entry? (raw : Entries) (field : Field) : Option (String × Value) :=
  match raw.getText? field.joinedName with
  | some value => some (field.joinedName, value)
  | none => (raw.getText? field.name).map fun value => (field.name, value)

/-- Reads an option from raw options. No change if it is not given. -/
def readFrom (raw : Entries) (field : Field) : Reading (Options → Options) :=
  match field.entry? raw with
  | none => .ok id
  | some (spelling, value) =>
      (Reading.within (.name spelling) (field.read value)).map fun change options =>
        let changed := change options
        { changed with given := changed.given ++ [field] }

end Field

namespace Options

/-- The spellings under which the options are given. -/
def usedNames (raw : Entries) : List String :=
  Field.all.filterMap fun field => (field.entry? raw).map Prod.fst

/-- The fault of a name that is no option, or one whose other spelling is given too. -/
def nameFault? (used : List String) (key : Value) : Option OptionFault :=
  match key with
  | .text name => if used.contains name then none else some ⟨[.name name], .unknownName⟩
  | other => some ⟨[Reading.keyLocator other], .nameNotText⟩

/-- The options of a task from raw options. -/
def ofEntries (raw : Entries) : Reading Options :=
  let changes := Reading.collect (Field.all.map (Field.readFrom raw))
  let names := raw.filterMap fun entry => nameFault? (usedNames raw) entry.1
  match changes, names with
  | .ok changes, [] =>
      let options := changes.foldl (fun options change => change options) {}
      if options.partialsUseNamespace && !options.usesNamespace then
        Reading.broken .partialsWithoutNamespace
      else .ok options
  | changes, names => .error (changes.faults ++ names)

end Options

end TemplateBundle
