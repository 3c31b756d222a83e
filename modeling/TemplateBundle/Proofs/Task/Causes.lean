import TemplateBundle.Proofs.Task.Abort
import TemplateBundle.Proofs.Template.Compilation

/-!
Contract: why a task fails.

Owns: the causes that the failure of a task can have, and the law that a task which fails, whatever
steps it is refused, fails for one of them.

Does not own: what a failure leaves behind (`Proofs.Task.Abort`).
-/

namespace TemplateBundle

/-- The functions that a task calls for its templates, apart from those that compute a namespace
or a dependency. -/
def Options.hooks (options : Options) : List Callable :=
  [options.processContent, options.processName, options.processPartialName,
    options.processAst].filterMap id

namespace Task

open OutputStream (joined after)

/-- Why a task fails. A template that the compiler refuses is no reason, for it is skipped. -/
inductive Cause (environment : Environment) (options : Options) : Failure → Prop
  | unavailable {failure : Failure} : environment.compiler.available = .error failure →
      Cause environment options failure
  | outputDirectory (fault : FileFault) :
      Cause environment options
        (Failure.ofFile (.outputDirectory options.outputPath.parent) fault)
  | write (fault : FileFault) :
      Cause environment options (Failure.ofFile (.write options.outputPath) fault)
  | inputDirectory (fault : FileFault) :
      Cause environment options (Failure.ofFile (.directory options.inputDir) fault)
  | hook {failure : Failure} (function : Callable) (arguments : List Value) :
      function ∈ options.hooks → environment.call function arguments = .error failure →
      Cause environment options failure
  | compiler {failure : Failure} : environment.compiler.Fails failure →
      (∀ text path, failure ≠ .template text path) → Cause environment options failure
  | settings {failure : Failure} : Compilation.compilerOptions options = .error failure →
      Cause environment options failure
  | name {failure : Failure} (name : Value) : Bundle.checkName name = .error failure →
      Cause environment options failure
  | namespaceOf {failure : Failure} (file : String) :
      options.namespaceRule.target environment file = .error failure →
      Cause environment options failure
  | dependencies {failure : Failure} (name ast compiled : Value) :
      options.amd.dependencies id environment name ast compiled = .error failure →
      Cause environment options failure

end Task

/-! ### Assembling -/

namespace Bundle

variable {environment : Environment} {options : Options} {bundle : Bundle} {failure : Failure}

theorem opening_fails {name ast compiled : Value}
    (fails : opening environment options name ast compiled = .error failure) :
    options.amd.dependencies id environment name ast compiled = .error failure := by
  unfold opening at fails
  dsimp only at fails
  by_cases isOn : options.amd.isOn = true
  · rw [if_pos isOn] at fails
    cases listed : options.amd.dependencies id environment name ast compiled with
    | error other =>
        simp only [listed, bind, Except.bind, Except.error.injEq] at fails
        rw [fails]
    | ok dependencies => simp [listed, bind, Except.bind] at fails
  · rw [if_neg isOn] at fails
    simp [bind, Except.bind] at fails

theorem preamble_fails {left : Bundle}
    (fails : Assembling.effect (preamble environment) (start options) = (.error failure, left)) :
    Task.Cause environment options failure := by
  have sameOptions : (start options).options = options := rfl
  rw [preamble_effect, sameOptions] at fails
  cases scope : options.wrapScope with
  | fragment => simp [scope] at fails
  | output =>
      rw [scope] at fails
      dsimp only at fails
      cases opened : opening environment options (.text options.outputFile) .null .null with
      | error other =>
          simp only [opened, Prod.mk.injEq, Except.error.injEq] at fails
          exact .dependencies _ _ _ (fails.1 ▸ opening_fails opened)
      | ok lines =>
          rw [opened] at fails
          dsimp only at fails
          cases rule : options.namespaceRule with
          | off => simp [rule] at fails
          | computed function => simp [rule] at fails
          | fixed path =>
              rw [rule] at fails
              dsimp only at fails
              cases splits : Namespace.segmentsOrFailure path with
              | error other =>
                  simp only [splits, Prod.mk.injEq, Except.error.injEq] at fails
                  refine .namespaceOf "" ?_
                  rw [rule, ← fails.1]
                  exact splits
              | ok target => simp [splits] at fails

theorem checkName_fails {name : Value} {asked : Unit → Contribution}
    (fails : (checkName name).map asked = .error failure) :
    Task.Cause environment options failure := by
  cases checked : checkName name with
  | error other =>
      simp only [checked, Except.map, Except.error.injEq] at fails
      exact .name name (fails ▸ checked)
  | ok _ => simp [checked, Except.map] at fails

theorem insideNamespace_fails {template : Template} {name : Value}
    {statement : List String → Statement}
    (fails : insideNamespace environment options template name statement = .error failure) :
    Task.Cause environment options failure := by
  unfold insideNamespace at fails
  cases named : options.namespaceRule.target environment template.file with
  | error other =>
      simp only [named, Except.error.injEq] at fails
      exact .namespaceOf template.file (fails ▸ named)
  | ok target =>
      rw [named] at fails
      dsimp only at fails
      exact checkName_fails fails

theorem contributionAs_fails {template : Template} {name : Value} {body : String}
    (fails : contributionAs environment options template name body = .error failure) :
    Task.Cause environment options failure := by
  unfold contributionAs at fails
  by_cases isPartial : template.isPartial = true
  · rw [if_pos isPartial] at fails
    by_cases uses : options.partialsUseNamespace = true
    · rw [if_pos uses] at fails
      exact insideNamespace_fails fails
    · rw [if_neg uses] at fails
      exact checkName_fails fails
  · rw [if_neg isPartial] at fails
    by_cases uses : options.usesNamespace = true
    · rw [if_pos uses] at fails
      exact insideNamespace_fails fails
    · rw [if_neg uses] at fails
      simp at fails

theorem templateName_fails {template : Template}
    (fails : templateName environment options template = .error failure) :
    Task.Cause environment options failure := by
  unfold templateName at fails
  cases hook : if template.isPartial then options.processPartialName else options.processName with
  | none => simp [hook] at fails
  | some function =>
      simp only [hook] at fails
      refine .hook function _ ?_ fails
      by_cases isPartial : template.isPartial = true
      · rw [if_pos isPartial] at hook
        simp [Options.hooks, List.mem_filterMap, hook]
      · rw [if_neg isPartial] at hook
        simp [Options.hooks, List.mem_filterMap, hook]

/-- A fragment is not assembled for a cause that the options name. -/
theorem assemble_fails {template : Template} {body : String} {ast : Value} {left : Bundle}
    (fails : Assembling.effect (assemble environment template body ast) bundle =
      (.error failure, left)) :
    Task.Cause environment bundle.options failure := by
  have same := assemble_outcome environment bundle template body ast
  unfold Assembling.outcome extended contribution at same
  rw [fails] at same
  cases named : templateName environment bundle.options template with
  | error other =>
      simp only [named, Except.map, Except.error.injEq] at same
      exact templateName_fails (same ▸ named)
  | ok name =>
      rw [named] at same
      dsimp only at same
      cases asks : contributionAs environment bundle.options template name body with
      | error other =>
          simp only [asks, Except.map, Except.error.injEq] at same
          exact contributionAs_fails (same ▸ asks)
      | ok asked =>
          rw [asks] at same
          dsimp only at same
          unfold wrappers at same
          rw [enteringSome_options] at same
          cases scope : bundle.options.wrapScope with
          | output => simp [scope, Except.map] at same
          | fragment =>
              rw [scope] at same
              dsimp only at same
              cases opened : opening environment bundle.options asked.name ast (.text body) with
              | error other =>
                  simp only [opened, Except.map, Except.error.injEq] at same
                  exact .dependencies _ _ _ (same ▸ opening_fails opened)
              | ok lines => simp [opened, Except.map] at same

/-- A bundle that does not get to its end has failed at an attempt or at a fragment. -/
theorem progress_fails {attempts : List Attempt}
    (fails : (progress environment bundle attempts).outcome = .error failure) :
    (∃ attempt ∈ attempts, attempt.2 = .error failure) ∨
      Task.Cause environment bundle.options failure := by
  induction attempts generalizing bundle with
  | nil => simp [progress] at fails
  | cons attempt rest inductionHypothesis =>
      obtain ⟨template, outcome⟩ := attempt
      have later (changed : Bundle) (sameOptions : changed.options = bundle.options)
          (fails : (progress environment changed rest).outcome = .error failure) :
          (∃ attempt ∈ (template, outcome) :: rest, attempt.2 = .error failure) ∨
            Task.Cause environment bundle.options failure := by
        rcases inductionHypothesis fails with ⟨attempt, member, failed⟩ | cause
        · exact .inl ⟨attempt, List.mem_cons_of_mem _ member, failed⟩
        · exact .inr (sameOptions ▸ cause)
      rcases outcome with other | _ | compiled
      · simp only [progress, Except.error.injEq] at fails
        exact .inl ⟨_, List.mem_cons_self, by rw [fails]⟩
      · exact later (bundle.skip template.relative) rfl fails
      · rw [progress] at fails
        rcases assembled : Assembling.effect
            (assemble environment template compiled.body compiled.ast) bundle with
          ⟨other | fragment, changed⟩
        · simp only [assembled, Except.error.injEq] at fails
          exact .inr (assemble_fails (fails ▸ assembled))
        · rw [assembled] at fails
          have sameOptions : changed.options = bundle.options :=
            (assemble_leavesTally _ _ _ _).keepsOptions assembled
          exact later changed.count sameOptions fails

end Bundle

/-! ### Compiling -/

namespace Compilation

variable {environment : Environment} {options : Options} {failure : Failure}

/-- What compiling a source fails for: a function, the compiler, or the options for it. -/
theorem staged_fails {wantsTree : Bool} {source : Value}
    (fails : staged environment options wantsTree source = .error failure) :
    (∃ function arguments, function ∈ options.hooks ∧
      environment.call function arguments = .error failure) ∨
    environment.compiler.Fails failure ∨ compilerOptions options = .error failure := by
  unfold staged at fails
  split at fails
  · cases parsed : environment.compiler.parse source with
    | error other =>
        simp only [parsed, Except.bind, Except.error.injEq] at fails
        exact .inr (.inl (.parse source (fails ▸ parsed)))
    | ok tree =>
        simp only [parsed, Except.bind] at fails
        unfold treeOf at fails
        cases hook : options.processAst with
        | none =>
            simp only [hook] at fails
            exact .inr (textOf_fails fails)
        | some function =>
            simp only [hook] at fails
            cases called : environment.call function [tree] with
            | error other =>
                simp only [called, Except.error.injEq] at fails
                refine .inl ⟨function, [tree], ?_, fails ▸ called⟩
                simp [Options.hooks, List.mem_filterMap, hook]
            | ok ast =>
                simp only [called] at fails
                exact .inr (textOf_fails fails)
  · exact .inr (textOf_fails fails)

/-- A failure that is no refusal of the template is not renamed. -/
theorem eq_of_nameTemplate {file : String} {other : Failure}
    (renamed : nameTemplate file other = failure)
    (noRefusal : ∀ text path, failure ≠ .template text path) : other = failure := by
  cases other with
  | template text path => exact absurd renamed.symm (noRefusal text (some file))
  | _ => exact renamed

/-- What keeps a template from being compiled, unless it is skipped for it. -/
theorem outcome_fails {wantsTree : Bool} {source file : String}
    (fails : outcome environment options wantsTree source file = .error failure)
    (noRefusal : ∀ text path, failure ≠ .template text path) :
    Task.Cause environment options failure := by
  unfold outcome at fails
  cases given : content environment options source file with
  | error other =>
      simp only [given, Except.bind, Except.error.injEq] at fails
      unfold content at given
      cases hook : options.processContent with
      | none => simp [hook] at given
      | some function =>
          simp only [hook] at given
          refine .hook function _ ?_ (fails ▸ given)
          simp [Options.hooks, List.mem_filterMap, hook]
  | ok text =>
      cases stages : staged environment options wantsTree text with
      | ok found => simp [given, stages, Except.bind, Except.mapError] at fails
      | error other =>
          simp only [given, stages, Except.bind, Except.mapError, Except.error.injEq] at fails
          obtain rfl := eq_of_nameTemplate fails noRefusal
          rcases staged_fails stages with ⟨function, arguments, member, called⟩ | broken | merging
          · exact .hook function arguments member called
          · exact .compiler broken noRefusal
          · exact .settings merging

end Compilation

/-! ### A whole task -/

namespace Task

variable {environment : Environment} {options : Options} {tree left : FileTree}
  {failure : Failure} {path : Path}

theorem attempt_fails {template : Template}
    (fails : attempt environment options tree template = .error failure) :
    Cause environment options failure := by
  unfold attempt at fails
  cases bytes : tree.read template.path with
  | error fault => simp [bytes] at fails
  | ok content =>
      cases decoded : Text.decodeUtf8? content with
      | none => simp [bytes, decoded] at fails
      | some source =>
          simp only [bytes, decoded] at fails
          rw [Compilation.compile_yields environment options (wantsTree options) source
            template.file []] at fails
          cases outcome : Compilation.outcome environment options (wantsTree options) source
              template.file with
          | ok compiled => simp [outcome] at fails
          | error other =>
              cases other with
              | template text path => simp [outcome] at fails
              | _ =>
                  simp only [outcome, Except.error.injEq] at fails
                  subst fails
                  exact Compilation.outcome_fails outcome (by simp)

theorem ensureDirectory_fails
    (fails : Work.MayEnd (ensureDirectory path) tree (.error failure) left) :
    ∃ fault, failure = Failure.ofFile (.outputDirectory path) fault := by
  unfold ensureDirectory at fails
  by_cases here : path.toString = "."
  · rw [if_pos here] at fails
    simp [Work.mayEnd_pure] at fails
  · rw [if_neg here] at fails
    obtain ⟨reply, changed, _, rest⟩ := Work.mayEnd_lift_bind.mp fails
    rcases reply with fault | ⟨⟩
    · exact ⟨fault, Except.error.inj (Work.mayEnd_throw.mp rest).1⟩
    · simp [Work.mayEnd_pure] at rest

theorem openOutput_fails
    (fails : Work.MayEnd (openOutput environment options) tree (.error failure) left) :
    Cause environment options failure := by
  unfold openOutput at fails
  dsimp only at fails
  rcases Work.mayEnd_bind.mp fails with ⟨_, base, _, later⟩ | ⟨_, same, makes⟩
  · have assembles := Work.mayEnd_bind_still (assembling_follows _ _ _) later
    rw [assembling_effect] at assembles
    rcases preamble : Assembling.effect (Bundle.preamble environment) (Bundle.start options) with
      ⟨other | lines, bundle⟩
    · rw [preamble] at assembles
      obtain ⟨same, _⟩ := assembles
      exact Bundle.preamble_fails (Except.error.inj same ▸ preamble)
    · rw [preamble] at assembles
      obtain ⟨result, changed, starts, rest⟩ := Work.mayEnd_lift_bind.mp assembles
      rcases OutputStream.start_mayEnd starts with ⟨_, _, _, rfl, _⟩ | ⟨fault, rfl, _⟩
      · exact absurd (written_mayEnd rest) (by simp [Work.mayEnd_pure])
      · obtain ⟨same, _⟩ := written_mayEnd rest
        rw [Except.error.inj same]
        exact .write fault
  · obtain ⟨fault, rfl⟩ := ensureDirectory_fails makes
    rw [Except.error.inj same]
    exact .outputDirectory fault

theorem classify_fails {inputDir : Path} {names : List String}
    (fails : Work.MayEnd (Template.classify options inputDir names) tree (.error failure) left) :
    failure = Failure.ofFile (.directory options.inputDir) .unusablePath := by
  induction names generalizing tree with
  | nil => simp [Template.classify, Work.mayEnd_pure] at fails
  | cons relative rest inductionHypothesis =>
      unfold Template.classify at fails
      split at fails
      · obtain ⟨kind, changed, _, later⟩ := Work.mayEnd_lift_bind.mp fails
        split at later
        · rcases Work.mayEnd_bind.mp later with ⟨_, _, _, ends⟩ | ⟨_, same, stops⟩
          · simp [Work.mayEnd_pure] at ends
          · exact inductionHypothesis (Except.error.inj same ▸ stops)
        · exact Except.error.inj (Work.mayEnd_throw.mp later).1
        · exact inductionHypothesis (Work.mayEnd_log_bind.mp later)
      · exact inductionHypothesis fails

theorem discover_fails
    (fails : Work.MayEnd (Template.discover options) tree (.error failure) left) :
    ∃ fault, failure = Failure.ofFile (.directory options.inputDir) fault := by
  unfold Template.discover at fails
  obtain ⟨reply, changed, _, later⟩ := Work.mayEnd_lift_bind.mp fails
  rcases reply with fault | names
  · exact ⟨fault, Except.error.inj (Work.mayEnd_throw.mp later).1⟩
  · rcases Work.mayEnd_bind.mp later with ⟨templates, _, _, ends⟩ | ⟨_, same, stops⟩
    · have told := Work.mayEnd_log_bind.mp ends
      simp [Work.mayEnd_pure] at told
    · exact ⟨.unusablePath, Except.error.inj same ▸ classify_fails stops⟩

theorem Aborted.cause (aborted : Aborted environment options tree failure left) :
    Cause environment options failure := by
  cases aborted with
  | unopened ends =>
      rcases ends with refused | ends
      · exact .unavailable refused
      · exact openOutput_fails ends
  | unlisted _ ends =>
      obtain ⟨fault, rfl⟩ := discover_fails ends
      exact .inputDirectory fault
  | @unfilled opened bundle lines location executable templates attempted _ underway attempting
      written =>
      have sameOptions : bundle.options = options :=
        (Bundle.preamble_leavesTally environment).keepsOptions underway.preamble
      cases written with
      | refused fault => exact .write fault
      | all stops =>
          rcases Bundle.progress_fails (congrArg Progress.outcome stops) with
            ⟨made, member, failed⟩ | cause
          · obtain ⟨earlier, later, split⟩ := List.append_of_mem member
            rcases attempting.tried earlier made later split with skipped | tried
            · simp [failed] at skipped
            · exact attempt_fails (tried.symm.trans failed)
          · exact sameOptions ▸ cause
  | unclosed _ _ _ _ _ writes =>
      rw [writes]
      exact .write _

/-- A task that fails, whatever steps it is refused, fails for a cause. -/
theorem cause_of_failure
    (fails : (run environment options).MayEnd tree (.error failure) left) :
    Cause environment options failure := by
  change Work.MayEnd (work environment options) tree (.error failure) left at fails
  cases available : environment.compiler.available with
  | error other =>
      unfold work at fails
      rw [available] at fails
      rcases Work.mayEnd_bind.mp fails with ⟨_, _, throws, _⟩ | ⟨_, same, throws⟩
      · obtain ⟨impossible, _⟩ := Work.mayEnd_throw.mp throws
        simp at impossible
      · obtain rfl := Except.error.inj same
        obtain rfl := Except.error.inj (Work.mayEnd_throw.mp throws).1
        exact .unavailable available
  | ok _ =>
      rw [work_eq available] at fails
      rcases Work.mayEnd_bind.mp (Work.mayEnd_log_bind.mp fails) with
        ⟨state, opened, opens, fills⟩ | ⟨_, same, opens⟩
      · rcases openOutput_mayEnd opens with
          ⟨⟨_, impossible⟩, _⟩ |
          ⟨bundle, lines, base, location, executable, preamble, outcome, spares, writes, holds⟩
        · simp at impossible
        · obtain rfl := Except.ok.inj outcome
          exact (fill_aborts preamble spares writes (holds ▸ opens) (holds ▸ fills)).cause
      · obtain rfl := Except.error.inj same
        exact openOutput_fails opens

end Task

end TemplateBundle
