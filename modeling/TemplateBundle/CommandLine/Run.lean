import TemplateBundle.Build
import TemplateBundle.CommandLine.Request
import TemplateBundle.TaskFile
import TemplateBundle.Text.ControlSequence

/-!
Contract: the commands as programs, and how they end.

Owns: the options that a command line sets for all tasks, the tasks of a build, the lines that
a command prints, and which failures are told in the log.
-/

namespace TemplateBundle.CommandLine

/-- A command at work. -/
abbrev CommandWork := ExceptT Stop Program

/-- How a command ends. -/
inductive Ending where
  | printed (lines : List String)
  | misused (fault : UsageFault)
  /-- The failure was told in the log, if it is one that can be expected. -/
  | failed (failure : Failure)

/-- The status that a command ends with. -/
def Ending.exitCode : Ending → Nat
  | .printed _ => 0
  | .misused _ => 2
  | .failed _ => 1

/-- Work that is done already. -/
def decided {α : Type} (outcome : Except Stop α) : CommandWork α := ExceptT.mk (pure outcome)

/-! ## Builds -/

/-- Misuse is found before any work. -/
def ofUsage {α : Type} : Except UsageFault α → Except Stop α
  | .ok value => .ok value
  | .error fault => .error (.misused fault)

/-- Work that cannot be done. -/
def ofFailure {α : Type} : Except Failure α → Except Stop α
  | .ok value => .ok value
  | .error failure => .error (.failed failure)

/-- An option that is set where a value was given for it. -/
def given (field : Field) (value : Option String) : Entries :=
  match value with
  | some content => [(.text field.name, .text content)]
  | none => []

/-- An option that is set where its flag was given. -/
def flagged (field : Field) (flag : Bool) : Entries :=
  if flag then [(.text field.name, .bool true)] else []

/-- The raw options that a command line sets for every task. -/
def BuildRequest.overrides (request : BuildRequest) : Except UsageFault Entries := do
  if request.namespacePath.isSome && request.noNamespace then
    .error (.badValue "--namespace and --no-namespace are exclusive")
  else
    let dependencies ← parseDependencies request.amd
    let amd : Entries := if request.amd = [] then [] else [(.text Field.amd.name, dependencies)]
    let off : Entries :=
      if request.noNamespace then [(.text Field.namespaceRule.name, .bool false)] else []
    .ok (given .outputDir request.outputDir ++ given .namespaceRule request.namespacePath ++
      off ++ amd ++ flagged .commonjs request.commonjs ++ flagged .node request.node ++
      flagged .recursive request.recursive ++ given .wrapScope request.wrapScope)

/-- The task of a route. -/
def routeTask (catalogue : Catalogue) (overrides : Entries) (route : String) :
    Except Stop Options := do
  let (inputDir, outputFile) ← ofUsage (parseRoute route)
  ofFailure <| Options.ofValue catalogue <| .map <|
    Entries.update [(.text Field.inputDir.name, .text inputDir),
      (.text Field.outputFile.name, .text outputFile)] overrides

/-- The tasks of some routes. -/
def routeTasks (catalogue : Catalogue) (overrides : Entries) :
    List String → Except Stop (List Options)
  | [] => .ok []
  | route :: rest => do
      let task ← routeTask catalogue overrides route
      let tasks ← routeTasks catalogue overrides rest
      .ok (task :: tasks)

/-- Tasks with some of their options replaced. -/
def overrideEach (catalogue : Catalogue) (overrides : Entries) :
    List Options → Except Failure (List Options)
  | [] => .ok []
  | task :: rest => do
      let changed ← task.override catalogue overrides
      let tasks ← overrideEach catalogue overrides rest
      .ok (changed :: tasks)

/-- The tasks of the configuration file, if one is named. -/
def configTasks (catalogue : Catalogue) (config : Option Path) (overrides : Entries) :
    CommandWork (List Options) :=
  match config with
  | none => pure []
  | some path => ExceptT.mk do
      match ← (TaskFile.load catalogue path).run with
      | .ok tasks => pure (ofFailure (overrideEach catalogue overrides tasks))
      | .error failure => pure (.error (.failed failure))

/-- The tasks of a build: those of the file, then those of the routes. If there is none of
either kind, there is one task with the options of the command line alone. -/
def buildTasks (catalogue : Catalogue) (request : BuildRequest) : CommandWork (List Options) := do
  let overrides ← decided (ofUsage request.overrides)
  let routed ← decided (routeTasks catalogue overrides request.routes)
  let filed ← configTasks catalogue request.config overrides
  if (filed ++ routed).isEmpty then
    let task ← decided (ofFailure (Options.ofValue catalogue (.map overrides)))
    pure [task]
  else pure (filed ++ routed)

/-- What is printed about one task. Nothing printed steers a terminal. -/
def reportLine (report : Report) : String :=
  Text.withoutControlSequences <| report.outputPath.toString ++ ": " ++ toString report.compiled ++ " template(s)" ++
    (if report.skipped = [] then "" else ", " ++ toString report.skipped.length ++ " skipped")

/-- A build, and what it prints. -/
def build (catalogue : Catalogue) (environment : Environment) (schedule : List Nat)
    (request : BuildRequest) : CommandWork (List String) := do
  Program.log .debug "Starting hbsbundle"
  let tasks ← buildTasks catalogue request
  Program.log .debug ("Config: " ++ toString tasks.length ++ " task(s)")
  let reports ← decided (ofFailure (← Build.run environment schedule tasks))
  pure (reports.map reportLine)

/-! ## Listings -/

/-- What is printed about one template. -/
def templateLine (template : Template) : String :=
  Text.withoutControlSequences <| (if template.isPartial then "partial" else "template") ++ "\t" ++
    template.baseName ++ "\t" ++ template.relative

/-- The raw options of a listing. -/
def ScanRequest.task (request : ScanRequest) : Value :=
  .map [(.text Field.inputDir.name, .text request.inputDir.toString),
    (.text Field.recursive.name, .bool request.recursive),
    (.text Field.partialRegex.name, .text request.partialRegex)]

/-- A listing, and what it prints. -/
def scan (catalogue : Catalogue) (request : ScanRequest) : CommandWork (List String) := do
  let options ← decided (ofFailure (Options.ofValue catalogue request.task))
  let templates ← decided (ofFailure (← (Template.discover options).run))
  pure (templates.map templateLine)

/-! ## Commands -/

/-- The end of a command. A failure that can be expected is told in the log. -/
def conclude : Except Stop (List String) → Program Ending
  | .ok lines => pure (.printed lines)
  | .error (.misused fault) => pure (.misused fault)
  | .error (.failed failure) => do
      if failure.isExpected then Program.log .error failure.message
      pure (.failed failure)

/-- The work of a request. -/
def Request.work (catalogue : Catalogue) (environment : Environment) (schedule : List Nat) :
    Request → CommandWork (List String)
  | .build request => CommandLine.build catalogue environment schedule request
  | .scan request => CommandLine.scan catalogue request

/-- What the arguments ask for, done. -/
def run (catalogue : Catalogue) (environment : Environment) (schedule : List Nat)
    (arguments : List String) : Program Ending := do
  match Request.ofArguments arguments with
  | .error stop => conclude (.error stop)
  | .ok request => conclude (← (request.work catalogue environment schedule).run)

/-- The least level of the log that is shown for some arguments. -/
def shownLevel (arguments : List String) : LogLevel :=
  match Request.ofArguments arguments with
  | .ok request => if request.verbose then .debug else .info
  | .error _ => .info

end TemplateBundle.CommandLine
