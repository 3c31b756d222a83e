import TemplateBundle.CommandLine.Arguments
import TemplateBundle.Failure
import TemplateBundle.Text.Blank

/-!
Contract: what the command line asks for.

Owns: the two commands with their options, the form of a route from an input directory to an
output file, and what repeated dependencies mean.
-/

namespace TemplateBundle.CommandLine

/-- Why a command comes to no result: it is misused, or its work fails. -/
inductive Stop where
  | misused (fault : UsageFault)
  | failed (failure : Failure)

/-- A build that is asked for. -/
structure BuildRequest where
  config : Option Path
  routes : List String
  outputDir : Option String
  namespacePath : Option String
  noNamespace : Bool
  amd : List String
  commonjs : Bool
  node : Bool
  recursive : Bool
  wrapScope : Option String
  verbose : Bool

/-- A listing of templates that is asked for. -/
structure ScanRequest where
  inputDir : Path
  recursive : Bool
  partialRegex : String
  verbose : Bool

/-- What is asked for. -/
inductive Request where
  | build (request : BuildRequest)
  | scan (request : ScanRequest)

/-- Everything that happens is to be told. -/
def Request.verbose : Request → Bool
  | .build request => request.verbose
  | .scan request => request.verbose

/-! ## Options -/

/-- The flag for going into the directories below. -/
def recursiveRule : OptionRule := ⟨"recursive", some 'r', false⟩

/-- The flag for telling everything. -/
def verboseRule : OptionRule := ⟨"verbose", some 'v', false⟩

/-- The options of a build. -/
def buildRules : List OptionRule := [
  ⟨"config", some 'c', true⟩, ⟨"task", none, true⟩, ⟨"output-dir", none, true⟩,
  ⟨"namespace", none, true⟩, ⟨"no-namespace", none, false⟩, ⟨"amd", none, true⟩,
  ⟨"commonjs", none, false⟩, ⟨"node", none, false⟩, recursiveRule, ⟨"wrap-scope", none, true⟩,
  verboseRule]

/-- The options of a listing. -/
def scanRules : List OptionRule := [recursiveRule, ⟨"partial-regex", none, true⟩, verboseRule]

/-! ## Values -/

/-- A route `INPUT_DIR=OUTPUT_FILE`: both sides hold something, and the second may hold more
equals signs. -/
def parseRoute (text : String) : Except UsageFault (String × String) :=
  let fault := UsageFault.badValue ("Must be INPUT_DIR=OUTPUT_FILE, got: " ++ Text.quoted text)
  match Text.cutAtFirst? '=' text with
  | some (inputDir, outputFile) =>
      if inputDir = "" ∨ outputFile = "" then .error fault else .ok (inputDir, outputFile)
  | none => .error fault

/-- The words that ask for the dependency on the template runtime. -/
def standardWords : List String := ["true", "yes", "1"]

/-- The dependencies as an option of a task: none, the runtime, the one that is named, or a
list. Blanks around names do not count. -/
def parseDependencies : List String → Except UsageFault Value
  | [] => .ok (.bool false)
  | [name] =>
      let name := Text.strip name
      if standardWords.contains name.toLower then .ok (.bool true)
      else if name = "" then .error (.badValue "AMD dependency must not be empty")
      else .ok (.text name)
  | names => .ok (.list (names.map fun name => .text (Text.strip name)))

/-! ## Requests -/

/-- A path that can be handed to the system. A command that is given another one is misused. -/
def usablePath (text : String) : Except Stop Path :=
  let path := Path.ofString text
  if path.isUsable then .ok path
  else .error (.misused (.badValue FileFault.unusablePath.reason))

/-- Operands that no one asked for. -/
def refuseOperands (operands : List String) : Except Stop Unit :=
  if operands = [] then .ok () else .error (.misused (.extraOperands operands))

/-- A build, from the arguments after its name. -/
def readBuild (arguments : List String) : Except Stop BuildRequest := do
  let said ← (readArguments buildRules arguments).mapError .misused
  let config ← (value? said "config").mapM usablePath
  refuseOperands (operandsOf said)
  .ok {
    config
    routes := valuesOf said "task"
    outputDir := value? said "output-dir"
    namespacePath := value? said "namespace"
    noNamespace := hasFlag said "no-namespace"
    amd := valuesOf said "amd"
    commonjs := hasFlag said "commonjs"
    node := hasFlag said "node"
    recursive := hasFlag said "recursive"
    wrapScope := value? said "wrap-scope"
    verbose := hasFlag said "verbose" }

/-- A listing, from the arguments after its name. -/
def readScan (arguments : List String) : Except Stop ScanRequest := do
  let said ← (readArguments scanRules arguments).mapError .misused
  match operandsOf said with
  | [] => .error (.misused (.missingOperand "INPUT_DIR"))
  | inputDir :: extra => do
      let inputDir ← usablePath inputDir
      refuseOperands extra
      .ok {
        inputDir
        recursive := hasFlag said "recursive"
        partialRegex := (value? said "partial-regex").getD "^_"
        verbose := hasFlag said "verbose" }

/-- The command that comes first, and its arguments. Two hyphens may stand before it; it has
no options before it. -/
def readCommand : List String → Except Stop Request
  | [] => .error (.misused .missingCommand)
  | name :: arguments =>
      if name = "build" then (readBuild arguments).map .build
      else if name = "scan" then (readScan arguments).map .scan
      else .error (.misused (.unknownCommand name))

/-- What the arguments of the program ask for. -/
def Request.ofArguments : List String → Except Stop Request
  | [] => .error (.misused .missingCommand)
  | first :: rest =>
      if first = "--" then readCommand rest
      else if isOption first then .error (.misused (.unknownOption first))
      else readCommand (first :: rest)

end TemplateBundle.CommandLine
