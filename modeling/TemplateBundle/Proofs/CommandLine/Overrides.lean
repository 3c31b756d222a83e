import TemplateBundle.CommandLine.Run
import TemplateBundle.Proofs.Options.Overrides
import TemplateBundle.Proofs.Program.Effect

/-!
Contract: the options that a command line sets for the tasks of a file.

Owns: which options those are, and that setting them comes to what the file would have said with
just these options in place of its own.
-/

namespace TemplateBundle.CommandLine

variable {request : BuildRequest} {changes : Entries}

/-- The options that a command line sets for every task, in order. -/
def BuildRequest.overridden (request : BuildRequest) : List Field :=
  (if request.outputDir.isSome then [.outputDir] else []) ++
  (if request.namespacePath.isSome then [.namespaceRule] else []) ++
  (if request.noNamespace then [.namespaceRule] else []) ++
  (if request.amd = [] then [] else [.amd]) ++
  (if request.commonjs then [.commonjs] else []) ++ (if request.node then [.node] else []) ++
  (if request.recursive then [.recursive] else []) ++
  (if request.wrapScope.isSome then [.wrapScope] else [])

theorem keys_given (field : Field) (value : Option String) :
    (given field value).keys =
      (if value.isSome then [field] else []).map fun field => .text field.name := by
  cases value <;> rfl

theorem keys_flagged (field : Field) (flag : Bool) :
    (flagged field flag).keys =
      (if flag then [field] else []).map fun field => .text field.name := by
  cases flag <;> rfl

theorem BuildRequest.overrides_ok (asks : request.overrides = .ok changes) :
    (request.namespacePath.isSome && request.noNamespace) = false ∧
      ∃ dependencies, changes =
        given .outputDir request.outputDir ++ given .namespaceRule request.namespacePath ++
        (if request.noNamespace then [(.text Field.namespaceRule.name, .bool false)] else []) ++
        (if request.amd = [] then [] else [(.text Field.amd.name, dependencies)]) ++
        flagged .commonjs request.commonjs ++ flagged .node request.node ++
        flagged .recursive request.recursive ++ given .wrapScope request.wrapScope := by
  unfold overrides at asks
  by_cases exclusive : request.namespacePath.isSome && request.noNamespace
  · simp [exclusive] at asks
  · rw [if_neg exclusive] at asks
    cases parsed : parseDependencies request.amd with
    | error fault => simp [parsed, bind, Except.bind] at asks
    | ok dependencies =>
        simp only [parsed, bind, Except.bind, Except.ok.injEq] at asks
        exact ⟨by simpa using exclusive, dependencies, asks.symm⟩

/-- What a command line sets stands under the plain names of the options. -/
theorem BuildRequest.overrides_names (asks : request.overrides = .ok changes) :
    changes.HasNames (request.overridden.map Field.name) := by
  obtain ⟨_, dependencies, rfl⟩ := overrides_ok asks
  have off : Entries.keys (if request.noNamespace then
      [(.text Field.namespaceRule.name, .bool false)] else []) =
        (if request.noNamespace then [Field.namespaceRule] else []).map
          fun field => .text field.name := by
    cases request.noNamespace <;> rfl
  have amd : Entries.keys (if request.amd = [] then [] else
      [(.text Field.amd.name, dependencies)]) =
        (if request.amd = [] then [] else [Field.amd]).map fun field => .text field.name := by
    by_cases none : request.amd = [] <;> simp [none]
  unfold Entries.HasNames overridden
  simp only [Entries.keys_append, keys_given, keys_flagged, off, amd, List.map_append,
    List.map_map, Function.comp_def]

theorem BuildRequest.nodup_overridden (asks : request.overrides = .ok changes) :
    request.overridden.Nodup := by
  have sometimes (condition : Bool) (field : Field) :
      (if condition then [field] else []).Sublist [field] := by
    cases condition <;> simp
  have namespaces : ((if request.namespacePath.isSome then [Field.namespaceRule] else []) ++
      if request.noNamespace then [Field.namespaceRule] else []).Sublist [.namespaceRule] := by
    have exclusive := (overrides_ok asks).1
    cases path : request.namespacePath.isSome with
    | false => exact sometimes _ _
    | true =>
        rw [path, Bool.true_and] at exclusive
        rw [exclusive]
        exact List.Sublist.refl _
  have amd : (if request.amd = [] then [] else [Field.amd]).Sublist [.amd] := by
    by_cases none : request.amd = [] <;> simp [none]
  have among : request.overridden.Sublist ([.outputDir] ++ [.namespaceRule] ++ [.amd] ++
      [.commonjs] ++ [.node] ++ [.recursive] ++ [.wrapScope]) := by
    unfold overridden
    rw [List.append_assoc (if request.outputDir.isSome then [Field.outputDir] else [])]
    exact .append (.append (.append (.append (.append (.append (sometimes _ _) namespaces) amd)
      (sometimes _ _)) (sometimes _ _)) (sometimes _ _)) (sometimes _ _)
  exact among.nodup (by decide)

/-- The options that a command line sets replace just these options of an accepted task, if the task
outlasts that: what comes of it, the options that count as given included, is what comes of the
task's raw options with whatever was given for the set ones, under any name, gone, and with what the
command line says in its place. Where the latter comes to something, nothing less will do. A task
outlasts that whenever its functions are nothing but functions. If the command line sets nothing,
the task is left as it is. -/
theorem BuildRequest.overrides_replace (catalogue : Catalogue) (raw : Entries) (options : Options)
    (asks : request.overrides = .ok changes)
    (accepted : Options.ofValue catalogue (.map raw) = .ok options) :
    (options.Outlast catalogue request.overridden → ∀ changed,
      (options.override catalogue changes = .ok changed ↔
        Options.ofValue catalogue (.map (Options.replaced raw changes)) = .ok changed)) ∧
    (∀ changed, changes ≠ [] →
      Options.ofValue catalogue (.map (Options.replaced raw changes)) = .ok changed →
      (options.override catalogue changes = .ok changed ↔
        options.Outlast catalogue request.overridden)) ∧
    (catalogue.IsPlain → options.Outlast catalogue request.overridden) ∧
    (changes = [] → options.override catalogue changes = .ok options) := by
  have named := BuildRequest.overrides_names asks
  have distinct := BuildRequest.nodup_overridden asks
  refine ⟨fun outlast changed => ?_, fun changed some anew => ?_, fun plain => ?_, fun none => ?_⟩
  · exact Options.override_ok_iff named distinct accepted outlast
  · exact Options.override_ok_iff_outlast named distinct accepted some anew
  · exact Options.outlast_of_plain plain accepted request.overridden
  · unfold Options.override
    rw [if_pos none]

/-- A build of the tasks of a file, for which the command line sets some options. -/
def someOverrides : BuildRequest where
  config := none
  routes := []
  outputDir := some "out/"
  namespacePath := some " App.Views "
  noNamespace := false
  amd := ["hooks:letter"]
  commonjs := true
  node := false
  recursive := false
  wrapScope := none
  verbose := false

/-- A task as it may stand in a file: its namespace is computed, a flag is a word, and a path has
slashes that do not count. -/
def computedTask : Entries :=
  [(.text "namespaceFunction", .text "hooks:letter"), (.text "amd", .text "dependency"),
    (.text "inputDir", .text "templates//views/"), (.text "recursive", .text "Yes"),
    (.text "partialsUseNamespace", .int 1)]

/-- A module with one function. -/
def oneModule : Catalogue := [("hooks", .loaded [⟨"letter", .function⟩])]

theorem oneModule_isPlain : oneModule.IsPlain := by
  intro function
  unfold Catalogue.guise Catalogue.module? oneModule
  by_cases inModule : "hooks" = function.module
  · by_cases named : "letter" = function.name <;> simp [inModule, named]
  · simp [inModule]

/-- What the command line sets then. -/
def someChanges : Entries :=
  [(.text "output_dir", .text "out/"), (.text "namespace", .text " App.Views "),
    (.text "amd", .text "hooks:letter"), (.text "commonjs", .bool true)]

theorem overrides_replace_of_computed_task :
    someOverrides.overrides = .ok someChanges ∧
    ∃ options changed, Options.ofValue oneModule (.map computedTask) = .ok options ∧
      options.override oneModule someChanges = .ok changed ∧
      Options.ofValue oneModule (.map (Options.replaced computedTask someChanges)) =
        .ok changed := by
  have asks : someOverrides.overrides = .ok someChanges := ok_of_toOption (by decide +kernel)
  have succeeds : ((Options.ofValue oneModule (.map computedTask)).toOption.bind fun options =>
      (options.override oneModule someChanges).toOption).isSome = true := by decide +kernel
  refine ⟨asks, ?_⟩
  cases accepted : Options.ofValue oneModule (.map computedTask) with
  | error failure => simp [accepted, Except.toOption] at succeeds
  | ok options =>
      cases overridden : options.override oneModule someChanges with
      | error failure => simp [accepted, overridden, Except.toOption] at succeeds
      | ok changed =>
          obtain ⟨replaces, _, outlast, _⟩ :=
            BuildRequest.overrides_replace oneModule computedTask options asks accepted
          exact ⟨options, changed, rfl, overridden,
            (replaces (outlast oneModule_isPlain) changed).mp overridden⟩

/-- A task whose names are chosen by a function. -/
def renamingTask : Entries := [(.text "processName", .text "hooks:PREFIX")]

/-- A module with a function that is a record too, and is written back as that. -/
def recordModule : Catalogue :=
  [("hooks", .loaded
    [⟨"PREFIX", .function { written := .value (.map [(.text "text", .text "p:")]) }⟩])]

/-- A build of the tasks of a file into another directory. -/
def elsewhere : BuildRequest where
  config := none
  routes := []
  outputDir := some "out"
  namespacePath := none
  noNamespace := false
  amd := []
  commonjs := false
  node := false
  recursive := false
  wrapScope := none
  verbose := false

/-- What the command line sets then. -/
def elsewhereChanges : Entries := [(.text "output_dir", .text "out")]

/-- A task that is accepted as such and would be accepted with another directory in its place is
refused, since its function is written back as a record. -/
theorem overrides_refuse_record_function :
    ∃ options changed, elsewhere.overrides = .ok elsewhereChanges ∧
      Options.ofValue recordModule (.map renamingTask) = .ok options ∧
      Options.ofValue recordModule
        (.map (Options.replaced renamingTask elsewhereChanges)) = .ok changed ∧
      options.override recordModule elsewhereChanges =
        .error (.options [⟨[.name "process_name"], .function⟩]) := by
  have asks : elsewhere.overrides = .ok elsewhereChanges := ok_of_toOption (by decide +kernel)
  have accepts : (Options.ofValue recordModule (.map renamingTask)).toOption.isSome = true := by
    decide +kernel
  have acceptsAnew : (Options.ofValue recordModule
      (.map (Options.replaced renamingTask elsewhereChanges))).toOption.isSome = true := by
    decide +kernel
  have refuses : (Options.ofValue recordModule (.map renamingTask)).bind (fun options =>
      options.override recordModule elsewhereChanges) =
        .error (.options [⟨[.name "process_name"], .function⟩]) :=
    error_of_refused? (by decide +kernel)
  obtain ⟨options, found⟩ := Option.isSome_iff_exists.mp accepts
  obtain ⟨changed, foundAnew⟩ := Option.isSome_iff_exists.mp acceptsAnew
  rw [ok_of_toOption found] at refuses
  exact ⟨options, changed, asks, ok_of_toOption found, ok_of_toOption foundAnew, refuses⟩

end TemplateBundle.CommandLine
