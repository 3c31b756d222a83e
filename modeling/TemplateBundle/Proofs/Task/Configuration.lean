import TemplateBundle.Proofs.Options.Acceptance
import TemplateBundle.Proofs.Options.Refusal
import TemplateBundle.Proofs.Bundle.Declarations
import TemplateBundle.Proofs.Task.Causes
import TemplateBundle.Proofs.Template.CompilerOptions

/-!
Contract: a task whose options were accepted does not find them wrong later.

Owns: what has to hold of the functions that a task calls, the checks that come out well for
accepted options without computed parts, and the law that no failure of such a task, wherever it
arises, says that the configuration is wrong.

Does not own: for what a task can fail (`Proofs.Task.Causes`).
-/

namespace TemplateBundle

/-- What a task calls for its templates does not itself fail by saying that the configuration is
wrong. -/
structure Environment.LeavesConfiguration (environment : Environment) (options : Options) :
    Prop where
  available : ∀ failure, environment.compiler.available = .error failure →
    ¬ failure.IsConfiguration
  compiler : ∀ failure, environment.compiler.Fails failure → ¬ failure.IsConfiguration
  hooks : ∀ function ∈ options.hooks, ∀ arguments failure,
    environment.call function arguments = .error failure → ¬ failure.IsConfiguration

variable {catalogue : Catalogue} {raw : Value} {environment : Environment} {options : Options}
  {bundle : Bundle} {template : Template} {failure : Failure}

/-- The value that an option for dependencies is written back as is a rule again. -/
theorem DependencyRule.ofValue_amd (options : Options) :
    ∃ rule, DependencyRule.ofValue (Field.amd.value options) = .ok rule ∧
      rule.fixedDependencies .text = (options.amd.fixedDependencies id).map .text := by
  unfold Field.value
  cases options.amd with
  | off => exact ⟨_, rfl, rfl⟩
  | standard => exact ⟨_, rfl, rfl⟩
  | named dependency => exact ⟨_, rfl, rfl⟩
  | listed dependencies => exact ⟨_, rfl, rfl⟩
  | computed function => exact ⟨_, rfl, rfl⟩

theorem NamespaceRule.target_fixed (environment : Environment) (splits : options.NamespaceSplits)
    (fixed : ∀ function, options.namespaceRule ≠ .computed function) (file : String) :
    ∃ target, options.namespaceRule.target environment file = .ok target := by
  cases rule : options.namespaceRule with
  | off => exact ⟨[], rfl⟩
  | computed function => exact absurd rule (fixed function)
  | fixed path =>
      obtain ⟨target, isPath⟩ := splits path rule
      exact ⟨target, by simp [NamespaceRule.target, Namespace.segmentsOrFailure, isPath]⟩

/-! ### What is assembled -/

namespace Bundle

theorem usesNamespace_of_entered {name : Value} {body : String} {asked : Contribution}
    {target : List String} (coherent : options.IsCoherent)
    (asks : contributionAs environment options template name body = .ok asked)
    (enters : asked.entered = some target) : options.usesNamespace = true := by
  unfold contributionAs at asks
  by_cases isPartial : template.isPartial = true
  · rw [if_pos isPartial] at asks
    by_cases uses : options.partialsUseNamespace = true
    · exact coherent uses
    · rw [if_neg uses] at asks
      cases checked : checkName name with
      | error failure => simp [checked, Except.map] at asks
      | ok _ =>
          rw [checked] at asks
          obtain rfl := Except.ok.inj asks
          simp at enters
  · rw [if_neg isPartial] at asks
    by_cases uses : options.usesNamespace = true
    · exact uses
    · rw [if_neg uses] at asks
      obtain rfl := Except.ok.inj asks
      simp at enters

/-- Whatever a fragment assigns or registers in a namespace has a namespace to go to. -/
theorem assemble_target_ne_nil {body : String} {ast : Value} {fragment : Fragment} {after : Bundle}
    {statement : Statement} {target : List String} (coherent : bundle.options.IsCoherent)
    (succeeds : Assembling.effect (assemble environment template body ast) bundle =
      (.ok fragment, after))
    (member : statement ∈ fragment.statements) (goes : statement.target? = some target) :
    target ≠ [] := by
  obtain ⟨asked, lines, ends, asks, _, wraps, statements⟩ := assemble_ok succeeds
  obtain ⟨opens, closes⟩ := wrappers_wrap wraps
  have noWrapper (wraps : statement.isWrapper = true) : target ≠ [] := by
    simp [(Statement.silent_of_isWrapper wraps).2] at goes
  rw [statements, List.mem_append, List.mem_append] at member
  rcases member with (inOpening | inAdded) | inClosing
  · exact noWrapper (opens statement inOpening)
  · rcases List.mem_append.mp inAdded with declared | itself
    · obtain ⟨paths, _, rfl⟩ := missingSome_declares declared
      simp [Statement.target?] at goes
    · obtain rfl := List.mem_singleton.mp itself
      have known := contribution_ok asks
      rw [known.target?_eq] at goes
      refine NamespaceRule.target_ne_nil ?_ (known.target goes)
      unfold contribution at asks
      cases named : templateName environment bundle.options template with
      | error failure => simp [named] at asks
      | ok name =>
          rw [named] at asks
          exact of_decide_eq_true (usesNamespace_of_entered coherent asks goes)
  · exact noWrapper (closes statement inClosing)

/-- Each fragment of a bundle in progress is assembled, with the options of the bundle. -/
theorem assembled_of_progress {attempts : List Attempt} {fragment : Fragment}
    (member : fragment ∈ (progress environment bundle attempts).fragments) :
    ∃ before template compiled after, before.options = bundle.options ∧
      Assembling.effect (assemble environment template (Compiled.body compiled) compiled.ast)
        before = (.ok fragment, after) := by
  induction attempts generalizing bundle with
  | nil => simp [progress] at member
  | cons attempt rest inductionHypothesis =>
      obtain ⟨template, outcome⟩ := attempt
      rcases outcome with failure | _ | compiled
      · simp [progress] at member
      · exact @inductionHypothesis (bundle.skip template.relative) member
      · rw [progress] at member
        rcases assembled : Assembling.effect
            (assemble environment template compiled.body compiled.ast) bundle with
          ⟨failure | first, changed⟩
        · simp [assembled] at member
        · rw [assembled] at member
          rcases List.mem_cons.mp member with rfl | inRest
          · exact ⟨bundle, template, compiled, changed, rfl, assembled⟩
          · have sameOptions : changed.options = bundle.options :=
              (assemble_leavesTally _ _ _ _).keepsOptions assembled
            obtain ⟨before, later, made, after, same, done⟩ :=
              @inductionHypothesis changed.count inRest
            exact ⟨before, later, made, after, same.trans sameOptions, done⟩

end Bundle

/-! ### A whole task -/

theorem Bundle.not_isConfiguration_of_checkName {name : Value}
    (fails : checkName name = .error failure) : ¬ failure.IsConfiguration := by
  unfold checkName at fails
  split at fails
  · next fault _ =>
      obtain rfl := Except.error.inj fails
      cases fault <;> exact id
  · simp at fails

theorem Compilation.not_isConfiguration_of_compilerOptions
    (fails : compilerOptions options = .error failure) : ¬ failure.IsConfiguration := by
  obtain ⟨present, _, rfl⟩ := compilerOptions_error_iff.mp fails
  exact id

namespace Task

/-- A task whose options were accepted, with no computed namespace and no computed dependencies,
does not fail by saying that its configuration is wrong, whatever files there are and whatever
steps on them are refused, if what it calls does not say so. A fixed namespace is resolved and the
dependencies are found for every template, and no partial is registered in an empty namespace. -/
theorem run_leaves_configuration (accepted : Options.ofValue catalogue raw = .ok options)
    (namespaceGiven : ∀ function, options.namespaceRule ≠ .computed function)
    (dependenciesGiven : ∀ function, options.amd ≠ .computed function)
    (others : environment.LeavesConfiguration options) :
    (∀ tree failure left, (run environment options).MayEnd tree (.error failure) left →
      ¬ failure.IsConfiguration) ∧
    (∀ path, options.namespaceRule = .fixed path → ∃ target, target ≠ [] ∧
      ∀ (registry : Namespace.Registry) (file : String),
        (registry.resolveAnswer (.text path) file).1 = .ok (registry.declareTo target).1) ∧
    (∃ rule, DependencyRule.ofValue (Field.amd.value options) = .ok rule ∧
      rule.fixedDependencies .text = (options.amd.fixedDependencies id).map .text) ∧
    (∀ name ast compiled, options.amd.dependencies id environment name ast compiled =
      .ok (options.amd.fixedDependencies id)) ∧
    ∀ (bundle : Bundle) (attempts : List Attempt), bundle.options = options →
      ∀ fragment ∈ (Bundle.progress environment bundle attempts).fragments,
        ∀ runtime name target body,
          .registerIn runtime name target body ∈ fragment.statements → target ≠ [] := by
  obtain ⟨coherent, splits⟩ := Options.coherent_of_ofValue accepted
  refine ⟨fun tree failure left fails => ?_, fun path rule => ?_,
    DependencyRule.ofValue_amd options, DependencyRule.dependencies_fixed dependenciesGiven, ?_⟩
  · cases cause_of_failure fails with
    | unavailable refuses => exact others.available failure refuses
    | outputDirectory fault => exact Failure.not_isConfiguration_ofFile id
    | write fault => exact Failure.not_isConfiguration_ofFile id
    | inputDirectory fault => exact Failure.not_isConfiguration_ofFile id
    | hook function arguments member calls =>
        exact others.hooks function member arguments failure calls
    | compiler breaks _ => exact others.compiler failure breaks
    | settings merges => exact Compilation.not_isConfiguration_of_compilerOptions merges
    | name name checks => exact Bundle.not_isConfiguration_of_checkName checks
    | namespaceOf file names =>
        obtain ⟨target, named⟩ := NamespaceRule.target_fixed environment splits namespaceGiven file
        simp [named] at names
    | dependencies name ast compiled lists =>
        simp [DependencyRule.dependencies_fixed dependenciesGiven] at lists
  · obtain ⟨target, isPath⟩ := splits path rule
    refine ⟨target, Namespace.split_ne_nil isPath, fun registry file => ?_⟩
    unfold Namespace.Registry.resolveAnswer
    simp only [isPath]
  · rintro bundle attempts rfl fragment member runtime name target body inFragment
    obtain ⟨before, template, compiled, after, sameOptions, assembled⟩ :=
      Bundle.assembled_of_progress member
    exact Bundle.assemble_target_ne_nil (by rwa [sameOptions]) assembled inFragment rfl

/-- A task with a namespace for its partials, and with two dependencies. -/
def namespacedTask : Value :=
  .map [(.text "inputDir", .text "t"), (.text "outputFile", .text "out.js"),
    (.text "namespace", .text " App.Views "), (.text "partialsUseNamespace", .bool true),
    (.text "amd", .list [.text "first", .text "second"])]

theorem echo_leavesConfiguration (options : Options) : echo.LeavesConfiguration options where
  available := by simp [echo]
  compiler := by
    rintro failure (⟨source, parses⟩ | ⟨template, settings, compiles⟩)
    · simp [echo] at parses
    · simp only [echo] at compiles
      split at compiles
      · exact Except.error.inj compiles ▸ id
      · simp at compiles
      · simp at compiles
  hooks := by
    intro function _ arguments failure calls
    exact Except.error.inj calls ▸ id

theorem run_leaves_configuration_of_namespaced_task :
    ∃ options failure, Options.ofValue [] namespacedTask = .ok options ∧
      options.namespaceRule = .fixed "App.Views" ∧ options.amd = .listed ["first", "second"] ∧
      ((run echo options).run { threeTemplates with entries := [] }).value = .error failure ∧
      ¬ failure.IsConfiguration := by
  have reads : ((Options.ofValue [] namespacedTask).toOption.map fun options =>
      (options.namespaceRule, options.amd,
        ((run echo options).run { threeTemplates with entries := [] }).value.toOption.isNone)) =
      some (.fixed "App.Views", .listed ["first", "second"], true) := by decide +kernel
  cases accepted : Options.ofValue [] namespacedTask with
  | error failure => simp [accepted, Except.toOption] at reads
  | ok options =>
      simp only [accepted, Except.toOption, Option.map_some, Option.some.injEq,
        Prod.mk.injEq] at reads
      obtain ⟨namespaceIs, dependenciesAre, fails⟩ := reads
      have holds := run_leaves_configuration accepted (by simp [namespaceIs])
        (by simp [dependenciesAre]) (echo_leavesConfiguration options)
      cases value : ((run echo options).run { threeTemplates with entries := [] }).value with
      | ok report => simp [value] at fails
      | error failure =>
          have ends := Program.mayEnd_run (run echo options) { threeTemplates with entries := [] }
          rw [value] at ends
          exact ⟨options, failure, rfl, namespaceIs, dependenciesAre, value, holds.1 _ _ _ ends⟩

end Task

end TemplateBundle
