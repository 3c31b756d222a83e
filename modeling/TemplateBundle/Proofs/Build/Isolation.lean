import TemplateBundle.Build
import TemplateBundle.Proofs.Build.Views

/-!
Contract: tasks that run together do as each does alone.

Owns: the outcome of a build from those of its tasks, the effect of a build in any interleaving,
and that tasks which are apart write the files and report what they would alone.
-/

namespace TemplateBundle.Build

variable {environment : Environment} {tree shared own : FileTree} {tasks : List Options}

/-! ### The outcome of a build -/

section Outcome

variable {α : Type} {outcomes : List (Except Failure α)} {failure : Failure}

theorem outcome_map_ok (values : List α) : outcome (values.map .ok) = .ok values := by
  have noFailure : failures (values.map Except.ok) = ([] : List Failure) := by
    induction values with
    | nil => rfl
    | cons value rest inductionHypothesis => exact inductionHypothesis
  have allValues : successes (values.map Except.ok) = values := by
    induction values with
    | nil => rfl
    | cons value rest inductionHypothesis =>
        exact congrArg (value :: ·) (inductionHypothesis noFailure)
  unfold outcome
  rw [noFailure]
  dsimp only
  rw [allValues]

/-- The failure of a build is the first one among the outcomes. -/
theorem outcome_of_first_failure {front back : List (Except Failure α)}
    (succeeds : ∀ outcome ∈ front, ∃ value, outcome = .ok value) :
    outcome (front ++ .error failure :: back) = .error failure := by
  have first : ∃ others, failures (front ++ .error failure :: back) = failure :: others := by
    induction front with
    | nil => exact ⟨failures back, rfl⟩
    | cons head rest inductionHypothesis =>
        obtain ⟨value, rfl⟩ := succeeds head (by simp)
        exact inductionHypothesis fun outcome member =>
          succeeds outcome (List.mem_cons_of_mem _ member)
  obtain ⟨others, isFirst⟩ := first
  unfold outcome
  rw [isFirst]

end Outcome

/-- A build in an interleaving is the outcome of its tasks in it. -/
theorem run_effect (environment : Environment) (schedule : List Nat) (tasks : List Options)
    (tree : FileTree) :
    (run environment schedule tasks).effect tree =
      (outcome ((Program.interleave schedule (tasks.map (Task.run environment))).effect tree).1,
        ((Program.interleave schedule (tasks.map (Task.run environment))).effect tree).2) := by
  unfold run
  rw [Program.effect_bind, Program.effect_log, Program.effect_bind]
  dsimp only
  split
  · rfl
  · rfl

/-! ### Outputs -/

section Output

variable {κ : Type} {start : FileTree} {task : κ → Options} {inputs outputs : κ → Option Location}
  {key : κ}

/-- A task reads in the shared tree what it would read of its output in its own. -/
theorem View.read (view : View start outputs key shared own)
    (layout : Layout start task inputs outputs) :
    shared.read (task key).outputPath = own.read (task key).outputPath := by
  have destination := layout.output key
  suffices same : shared.findNode (task key).outputPath = own.findNode (task key).outputPath by
    unfold FileTree.read
    rw [same]
  cases isOutput : outputs key with
  | none =>
      rw [isOutput] at destination
      obtain ⟨fault, lasting, broken⟩ := FileTree.find_of_blocked destination
      unfold FileTree.findNode
      rw [FileTree.find_error_grows layout.wellFormed view.sharedBuilt.grows lasting broken,
        FileTree.find_error_grows layout.wellFormed view.ownBuilt.grows lasting broken]
  | some output =>
      rw [isOutput] at destination
      have towardShared : FileTree.GrowsToward start shared output := by
        apply view.sharedBuilt.growsToward
        rintro place ⟨writer, isPlace⟩ _ inside
        by_cases same : writer = key
        · rw [same, isOutput] at isPlace
          exact (Option.some.inj isPlace).symm
        · exact absurd inside (layout.apart writer key same place output isPlace isOutput)
      have towardOwn : FileTree.GrowsToward start own output := by
        apply view.ownBuilt.growsToward
        intro place isPlace _ _
        exact Option.some.inj (isPlace.symm.trans isOutput)
      cases usable : (task key).outputPath.isUsable with
      | false =>
          unfold FileTree.findNode
          rw [FileTree.find_unusable usable, FileTree.find_unusable usable]
      | true =>
          rw [FileTree.findNode_of_destination layout.wellFormed destination towardShared usable,
            FileTree.findNode_of_destination layout.wellFormed destination towardOwn usable]
          unfold FileTree.placeAt
          rw [view.sameOutput output isOutput]

end Output

/-! ### The build -/

/-- The tasks of a list by their positions. -/
def crew (environment : Environment) (tasks : List Options) :
    Program.Isolated.Crew (Fin tasks.length) (Except Failure Report) :=
  (List.finRange tasks.length).map fun index => (index, Task.run environment tasks[index])

theorem map_finRange {α : Type} (reading : Options → α) (tasks : List Options) :
    ((List.finRange tasks.length).map fun index => reading tasks[index]) = tasks.map reading :=
  List.ext_getElem (by simp) (by simp)

theorem crew_programs (environment : Environment) (tasks : List Options) :
    (crew environment tasks).map Prod.snd = tasks.map (Task.run environment) := by
  unfold crew
  rw [List.map_map]
  exact map_finRange (Task.run environment) tasks

theorem crew_values (environment : Environment) (tasks : List Options) (tree : FileTree) :
    Program.Isolated.ownValues (fun _ => tree) (crew environment tasks) =
      tasks.map fun options => ((Task.run environment options).run tree).value := by
  unfold Program.Isolated.ownValues crew
  rw [List.map_map, ← map_finRange]
  apply List.map_congr_left
  intro index _
  exact (Program.run_value _ _).symm

theorem crew_ready (environment : Environment)
    {inputs outputs : Fin tasks.length → Option Location}
    (layout : Layout tree (fun index => tasks[index]) inputs outputs) :
    Program.Isolated.Ready (fun index : Fin tasks.length => Task.Takes tasks[index])
      (fun _ => tree) (crew environment tasks) where
  distinct := by
    have keys : (crew environment tasks).map Prod.fst = List.finRange tasks.length := by
      unfold crew
      rw [List.map_map]
      exact List.map_id _
    rw [keys]
    exact List.nodup_finRange _
  follows := by
    intro member inCrew
    obtain ⟨index, _, rfl⟩ := List.mem_map.mp inCrew
    exact Task.run_follows layout.wellFormed (layout.normal index) (layout.output index)

/-- Tasks that are apart run together, in any interleaving of their steps, as each runs alone:
every output is read as the task alone would leave it, the reports come in the order of the
tasks if none fails, and else the failure is that of the first task that fails alone. -/
theorem run_isolated (environment : Environment) (schedule : List Nat)
    {inputs outputs : Fin tasks.length → Option Location}
    (layout : Layout tree (fun index => tasks[index]) inputs outputs) :
    let alone := fun options => (Task.run environment options).run tree
    let together := (run environment schedule tasks).run tree
    (∀ options ∈ tasks,
      together.tree.read options.outputPath = (alone options).tree.read options.outputPath) ∧
    (∀ reports, tasks.map (fun options => (alone options).value) = reports.map .ok →
      together.value = .ok reports) ∧
    ∀ front failing back failure, tasks = front ++ failing :: back →
      (∀ options ∈ front, ∃ report, (alone options).value = .ok report) →
      (alone failing).value = .error failure → together.value = .error failure := by
  intro alone together
  have views (index : Fin tasks.length) : View tree outputs index tree tree :=
    .refl layout.wellFormed outputs index
  obtain ⟨values, settled⟩ :=
    (isolated layout).interleave_effect schedule (crew_ready environment layout) views
  rw [crew_programs] at values settled
  rw [crew_values] at values
  have value : together.value =
      outcome (tasks.map fun options => (alone options).value) := by
    change ((run environment schedule tasks).run tree).value = _
    rw [Program.run_value, run_effect, values]
  refine ⟨?_, ?_, ?_⟩
  · intro options member
    obtain ⟨position, inRange, rfl⟩ := List.getElem_of_mem member
    have inCrew : ((⟨position, inRange⟩ : Fin tasks.length), Task.run environment tasks[position]) ∈
        crew environment tasks :=
      List.mem_map.mpr ⟨⟨position, inRange⟩, List.mem_finRange _, rfl⟩
    have view := settled.members _ inCrew
    change ((run environment schedule tasks).run tree).tree.read _ =
      ((Task.run environment tasks[position]).run tree).tree.read _
    rw [Program.run_tree, Program.run_tree, run_effect]
    exact view.read layout
  · intro reports succeed
    rw [value, succeed, outcome_map_ok]
  · intro front failing back failure split succeeds fails
    rw [value, split, List.map_append, List.map_cons, fails]
    apply outcome_of_first_failure
    intro outcome member
    obtain ⟨options, inFront, rfl⟩ := List.mem_map.mp member
    exact succeeds options inFront

/-- A directory of one template. -/
def oneTemplate : FileTree where
  entries := [(["t"], .directory), (["t", "a.hbs"], .file "hi".toUTF8 false)]
  home := []

/-- A task that compiles the template. -/
def fromTemplate : Options :=
  { inputDir := ⟨0, ["t"]⟩, outputDir := ⟨0, ["out"]⟩, outputFile := "a.js" }

/-- A task that has nothing to read and writes beside the other one. -/
def fromNothing : Options :=
  { inputDir := ⟨0, ["none"]⟩, outputDir := ⟨0, ["out"]⟩, outputFile := "b.js" }

theorem oneTemplate_wellFormed : oneTemplate.WellFormed where
  distinct := by decide +kernel
  rooted := by decide +kernel
  named := by decide +kernel
  inside := by decide +kernel
  home := by decide +kernel

def besideInputs (index : Fin 2) : Option Location := [some ["t"], some ["none"]][index]

def besideOutputs (index : Fin 2) : Option Location :=
  [some ["out", "a.js"], some ["out", "b.js"]][index]

theorem beside_layout :
    Layout oneTemplate (fun index : Fin [fromTemplate, fromNothing].length =>
      [fromTemplate, fromNothing][index]) besideInputs besideOutputs where
  wellFormed := oneTemplate_wellFormed
  normal := by decide +kernel
  input := by
    have first : oneTemplate.way ⟨0, ["t"]⟩ = .ok (.occupied ["t"] .directory) := rfl
    have second : oneTemplate.way ⟨0, ["none"]⟩ = .ok (.vacant ["none"]) := rfl
    exact Fin.forall_fin_two.mpr ⟨.there first, .there second⟩
  output := by
    have below : (oneTemplate.way ⟨0, []⟩).bind Place.node = .ok ([], .directory) := rfl
    have first : (⟨0, ["out", "a.js"]⟩ : Path).parts = [] ++ "out" :: ["a.js"] := rfl
    have second : (⟨0, ["out", "b.js"]⟩ : Path).parts = [] ++ "out" :: ["b.js"] := rfl
    exact Fin.forall_fin_two.mpr
      ⟨.beyond first below (by decide) rfl, .beyond second below (by decide) rfl⟩
  apart := by
    have apart : ∀ first second : Fin 2, first ≠ second → ∀ here ∈ besideOutputs first,
        ∀ there ∈ besideOutputs second, ¬ here <+: there := by decide
    intro first second different here there isHere isThere
    exact apart first second different here isHere there isThere
  outside := by
    have outside : ∀ reader writer : Fin 2, ∀ input ∈ besideInputs reader,
        ∀ output ∈ besideOutputs writer, ¬ input <+: output ∧ ¬ output <+: input := by decide
    intro reader writer input output isInput isOutput
    obtain ⟨notInside, notAbove⟩ := outside reader writer input isInput output isOutput
    exact ⟨fun inside => absurd inside notInside, fun _ => notAbove⟩

/-- The one task writes its whole output, and the other fails as it does alone. -/
theorem run_isolated_beside :
    let together := (run Task.echo [1, 0, 0, 1, 0] [fromTemplate, fromNothing]).run oneTemplate
    together.tree.read ⟨0, ["out", "a.js"]⟩ =
      ((Task.run Task.echo fromTemplate).run oneTemplate).tree.read ⟨0, ["out", "a.js"]⟩ ∧
    (failures [together.value]).map Failure.message =
      ["Failed to read template directory none: No such file or directory"] := by
  intro together
  obtain ⟨reads, _, firstFailure⟩ := run_isolated Task.echo [1, 0, 0, 1, 0] beside_layout
  have succeeds : ((Task.run Task.echo fromTemplate).run oneTemplate).value =
      .ok ⟨⟨0, ["out", "a.js"]⟩, 1, []⟩ := ok_of_toOption (by decide +kernel)
  have fails : (failures [((Task.run Task.echo fromNothing).run oneTemplate).value]).map
      Failure.message =
        ["Failed to read template directory none: No such file or directory"] := by
    decide +kernel
  refine ⟨reads fromTemplate (by simp), ?_⟩
  cases value : ((Task.run Task.echo fromNothing).run oneTemplate).value with
  | ok report =>
      rw [value] at fails
      exact absurd fails (by simp [failures])
  | error failure =>
      have before : ∀ options ∈ [fromTemplate], ∃ report,
          ((Task.run Task.echo options).run oneTemplate).value = .ok report := by
        intro options member
        rw [List.mem_singleton.mp member]
        exact ⟨_, succeeds⟩
      have failsTogether : together.value = .error failure :=
        firstFailure [fromTemplate] fromNothing [] failure rfl before value
      rw [value] at fails
      rw [failsTogether]
      exact fails

/-- A task that reads through the output directory of another one, which is made meanwhile. -/
def throughOutput : List Options :=
  [{ inputDir := ⟨0, ["t"]⟩, outputDir := ⟨0, ["x"]⟩, outputFile := "b.js" },
    { inputDir := ⟨0, ["x", "..", "t"]⟩, outputFile := "a.js" }]

/-- A task whose input directory is missing, and one whose output comes to stand above it. -/
def aboveInput : List Options :=
  [{ inputDir := ⟨0, ["t"]⟩, outputFile := "a" },
    { inputDir := ⟨0, ["a", "b"]⟩, outputFile := "b.js" }]

/-- Paths that are apart as they are written do not isolate tasks: one that fails alone completes
once the output directory of another is there, and one fails for another reason once a file
stands above its missing input directory. -/
theorem run_not_isolated_by_written_paths :
    (∀ tasks ∈ [throughOutput, aboveInput],
      (tasks.Pairwise fun first second =>
        ¬ first.outputPath.parts <+: second.outputPath.parts ∧
          ¬ second.outputPath.parts <+: first.outputPath.parts) ∧
      ∀ reader ∈ tasks, ∀ writer ∈ tasks,
        ¬ reader.inputDir.parts <+: writer.outputPath.parts) ∧
    (failures (throughOutput.map fun options =>
        ((Task.run Task.echo options).run oneTemplate).value)).map Failure.message =
      ["Failed to read template directory x/../t: No such file or directory"] ∧
    failures [((run Task.echo [] throughOutput).run oneTemplate).value] = [] ∧
    (failures (aboveInput.map fun options =>
        ((Task.run Task.echo options).run oneTemplate).value)).map Failure.message =
      ["Failed to read template directory a/b: No such file or directory"] ∧
    (failures [((run Task.echo [] aboveInput).run oneTemplate).value]).map Failure.message =
      ["Failed to read template directory a/b: Not a directory"] := by
  have completes : (failures [((run Task.echo [] throughOutput).run oneTemplate).value]).map
      Failure.message = [] := by decide +kernel
  refine ⟨by decide +kernel, by decide +kernel, List.map_eq_nil_iff.mp completes,
    by decide +kernel, by decide +kernel⟩

end TemplateBundle.Build
