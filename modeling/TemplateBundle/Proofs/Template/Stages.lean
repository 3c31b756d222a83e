import TemplateBundle.Proofs.Template.CompilerOptions

/-!
Contract: the stages that a compilation runs.

Owns: the stages as a plan, in which each answer decides what is asked next; the equation of a
compilation with its plan; and the laws that a stage which fails is the last one, that its error
names the template, except for the function for the content, and that a compilation depends on
nothing but the stages it runs.
-/

namespace TemplateBundle.Compilation

/-- A stage of a compilation, with what it is given. -/
inductive Stage where
  /-- The function for the content. -/
  | content (function : Callable) (source file : String)
  | parse (source : Value)
  /-- The function for the syntax tree. -/
  | tree (function : Callable) (parsed : Value)
  | precompile (given settings : Value)

namespace Stage

/-- What a stage answers if it succeeds. -/
abbrev Answer : Stage → Type
  | .precompile _ _ => String
  | _ => Value

/-- What a stage comes to. -/
def outcome (environment : Environment) : (stage : Stage) → Except Failure stage.Answer
  | .content function source file => environment.call function [.text source, .text file]
  | .parse source => environment.compiler.parse source
  | .tree function parsed => environment.call function [parsed]
  | .precompile given settings => environment.compiler.precompile given settings

/-- What is told of a stage before it runs. -/
def told : Stage → List Event
  | .parse source => [.request (.parse source)]
  | .precompile given settings => [.request (.precompile given settings)]
  | _ => []

/-- A failure of a stage as it is passed on. What the function for the content says stays as it
is. -/
def passOn (file : String) : Stage → Failure → Failure
  | .content _ _ _ => id
  | _ => nameTemplate file

/-- The template that an error of a stage names as it is passed on. -/
def named (file : String) (path : Option String) : Stage → Option String
  | .content _ _ _ => path
  | _ => some file

theorem passOn_template (stage : Stage) (file text : String) (path : Option String) :
    stage.passOn file (.template text path) = .template text (stage.named file path) := by
  cases stage <;> rfl

end Stage

/-- What is to be done: nothing more, or a stage is asked and its answer decides what follows. -/
inductive Plan where
  | finish (outcome : Except Failure Compiled)
  | ask (stage : Stage) (next : stage.Answer → Plan)

/-! ### The plan of a template -/

/-- The last stage: the compiler is asked with its options, if they can be put together. -/
def precompilePlan (options : Options) (given ast : Value) : Plan :=
  match compilerOptions options with
  | .error failure => .finish (.error failure)
  | .ok settings =>
      .ask (.precompile given (.map settings)) fun body =>
        .finish (.ok ⟨expression options body, ast⟩)

/-- The stages from the syntax tree on. -/
def treePlan (options : Options) (parsed : Value) : Plan :=
  match options.processAst with
  | none => precompilePlan options parsed parsed
  | some function => .ask (.tree function parsed) fun ast => precompilePlan options ast ast

/-- The stages after the content is known. -/
def contentPlan (options : Options) (wantsTree : Bool) (given : Value) : Plan :=
  if wantsTree || options.processAst.isSome then .ask (.parse given) (treePlan options)
  else precompilePlan options given .null

/-- All stages of a template. -/
def plan (options : Options) (wantsTree : Bool) (source file : String) : Plan :=
  match options.processContent with
  | none => contentPlan options wantsTree (.text source)
  | some function => .ask (.content function source file) (contentPlan options wantsTree)

/-! ### Plans carried out -/

/-- What is told at the end. -/
def endEvents (file : String) : Except Failure Compiled → List Event
  | .ok compiled =>
      [.log ⟨.debug, "Compiled " ++ file ++ " (" ++ toString compiled.body.length ++ " chars)"⟩]
  | .error _ => []

namespace Plan

/-- The outcome of a plan for a file, and the stages that are run, in order. A stage that fails ends
it. -/
def run (environment : Environment) (file : String) : Plan → Except Failure Compiled × List Stage
  | .finish outcome => (outcome, [])
  | .ask stage next =>
      match stage.outcome environment with
      | .error failure => (.error (stage.passOn file failure), [stage])
      | .ok answer =>
          let (outcome, later) := (next answer).run environment file
          (outcome, stage :: later)

/-- The work that a plan stands for. -/
def work (environment : Environment) (file : String) : Plan → Telling Compiled
  | .finish outcome => fun events => (outcome, events ++ endEvents file outcome)
  | .ask stage next => fun events =>
      match stage.outcome environment with
      | .error failure => (.error (stage.passOn file failure), events ++ stage.told)
      | .ok answer => (next answer).work environment file (events ++ stage.told)

variable {environment other : Environment} {file : String} {plan : Plan} {stage : Stage}
  {failure : Failure}

/-- The work has the outcome of the plan, and tells of the stages that are run and of the end. -/
theorem work_eq (plan : Plan) (environment : Environment) (file : String) (events : List Event) :
    plan.work environment file events =
      ((plan.run environment file).1, events ++ (plan.run environment file).2.flatMap Stage.told ++
        endEvents file (plan.run environment file).1) := by
  induction plan generalizing events with
  | finish outcome => simp [work, run]
  | ask stage next inductionHypothesis =>
      rw [work, run]
      cases answers : stage.outcome environment with
      | error failure => simp [endEvents]
      | ok answer => simp [inductionHypothesis answer]

/-- A stage that fails is the last one that is run, and its failure is passed on. -/
theorem run_of_failure (ran : stage ∈ (plan.run environment file).2)
    (fails : stage.outcome environment = .error failure) :
    (∃ earlier, (plan.run environment file).2 = earlier ++ [stage]) ∧
      (plan.run environment file).1 = .error (stage.passOn file failure) := by
  induction plan with
  | finish outcome => simp [run] at ran
  | ask first next inductionHypothesis =>
      rw [run] at ran ⊢
      cases answers : first.outcome environment with
      | error other =>
          simp only [answers, List.mem_singleton] at ran ⊢
          obtain rfl := ran
          obtain rfl : other = failure := Except.error.inj (answers.symm.trans fails)
          exact ⟨⟨[], rfl⟩, rfl⟩
      | ok answer =>
          simp only [answers, List.mem_cons] at ran ⊢
          rcases ran with rfl | later
          · rw [answers] at fails
            simp at fails
          · obtain ⟨⟨earlier, last⟩, passes⟩ := inductionHypothesis answer later
            exact ⟨⟨first :: earlier, by rw [last, List.cons_append]⟩, passes⟩

/-- Where all stages that are run come to the same, the whole plan does. -/
theorem run_congr
    (same : ∀ stage ∈ (plan.run environment file).2,
      stage.outcome other = stage.outcome environment) :
    plan.run other file = plan.run environment file := by
  induction plan with
  | finish outcome => rfl
  | ask first next inductionHypothesis =>
      rw [run] at same
      rw [run, run]
      cases answers : first.outcome environment with
      | error failure =>
          simp only [answers, List.mem_singleton, forall_eq] at same
          rw [same]
      | ok answer =>
          simp only [answers, List.mem_cons, forall_eq_or_imp] at same
          rw [same.1]
          simp only [inductionHypothesis answer same.2]

end Plan

/-! ### Compilations -/

section Run

open Telling

variable {α β γ : Type} (change : Failure → Failure) (following : α → Telling β)
  (finish : β → Telling γ) (events : List Event)

theorem run_pass_bind (outcome : Except Failure α) :
    (pass outcome >>= following).run events =
      match outcome with
      | .error failure => (.error failure, events)
      | .ok value => (following value).run events := by
  cases outcome <;> rfl

/-- Where the failures of some work are changed, those of its first step are. -/
theorem run_adapt_pass (outcome : Except Failure α) :
    (ExceptT.adapt change (pass outcome >>= following) >>= finish).run events =
      match outcome with
      | .error failure => (.error (change failure), events)
      | .ok value => (ExceptT.adapt change (following value) >>= finish).run events := by
  cases outcome <;> rfl

theorem run_adapt_tell (event : Event) (work : Telling β) :
    (ExceptT.adapt change (tell event >>= fun _ => work) >>= finish).run events =
      (ExceptT.adapt change work >>= finish).run (events ++ [event]) := rfl

end Run

variable {environment : Environment} {options : Options} {file : String}

/-- What follows the compiled text of a template. -/
def finishing (options : Options) (file : String) (found : String × Value) : Telling Compiled := do
  let body := expression options found.1
  Telling.tell (.log ⟨.debug, "Compiled " ++ file ++ " (" ++ toString body.length ++ " chars)"⟩)
  pure ⟨body, found.2⟩

theorem precompilePlan_work (given ast : Value) (events : List Event) :
    (ExceptT.adapt (nameTemplate file) (do
        let settings ← Telling.pass (compilerOptions options)
        Telling.tell (.request (.precompile given (.map settings)))
        let body ← Telling.pass (environment.compiler.precompile given (.map settings))
        pure (body, ast)) >>= finishing options file).run events =
      (precompilePlan options given ast).work environment file events := by
  rw [run_adapt_pass, precompilePlan]
  cases merged : compilerOptions options with
  | error failure =>
      have kept : nameTemplate file failure = failure :=
        nameTemplate_of_escapes (not_isOfCompiler_of_compilerOptions merged)
      simp [kept, Plan.work, endEvents]
  | ok settings =>
      dsimp only
      rw [run_adapt_tell, run_adapt_pass, Plan.work, Stage.outcome]
      cases environment.compiler.precompile given (.map settings) with
      | error failure => rfl
      | ok body => rfl

theorem treePlan_work (parsed : Value) (events : List Event) :
    (ExceptT.adapt (nameTemplate file) (do
        let ast ← match options.processAst with
          | none => pure parsed
          | some function => Telling.pass (environment.call function [parsed])
        let settings ← Telling.pass (compilerOptions options)
        Telling.tell (.request (.precompile ast (.map settings)))
        let body ← Telling.pass (environment.compiler.precompile ast (.map settings))
        pure (body, ast)) >>= finishing options file).run events =
      (treePlan options parsed).work environment file events := by
  unfold treePlan
  cases options.processAst with
  | none => exact precompilePlan_work parsed parsed events
  | some function =>
      dsimp only
      rw [run_adapt_pass, Plan.work, Stage.outcome]
      cases environment.call function [parsed] with
      | error failure => simp [Stage.passOn, Stage.told]
      | ok ast =>
          dsimp only [Stage.told]
          rw [List.append_nil]
          exact precompilePlan_work ast ast events

theorem contentPlan_work (wantsTree : Bool) (given : Value) (events : List Event) :
    (ExceptT.adapt (nameTemplate file) (stages environment options wantsTree given) >>=
        finishing options file).run events =
      (contentPlan options wantsTree given).work environment file events := by
  unfold stages contentPlan
  split
  · rw [run_adapt_tell, run_adapt_pass, Plan.work, Stage.outcome]
    cases environment.compiler.parse given with
    | error failure => rfl
    | ok parsed => exact treePlan_work parsed _
  · exact precompilePlan_work given .null events

/-- A compilation is the work that its plan stands for. -/
theorem compile_eq (environment : Environment) (options : Options) (wantsTree : Bool)
    (source file : String) :
    compile environment options wantsTree source file =
      (plan options wantsTree source file).work environment file := by
  funext events
  change (compile environment options wantsTree source file).run events = _
  unfold compile plan
  rw [run_pass_bind, content]
  cases options.processContent with
  | none => exact contentPlan_work wantsTree (.text source) events
  | some function =>
      dsimp only
      rw [Plan.work, Stage.outcome]
      cases environment.call function [.text source, .text file] with
      | error failure => simp [Stage.passOn, Stage.told]
      | ok given =>
          dsimp only [Stage.told]
          rw [List.append_nil]
          exact contentPlan_work wantsTree given events

/-- The stages that a compilation runs, in order. -/
def stagesRun (environment : Environment) (options : Options) (wantsTree : Bool)
    (source file : String) : List Stage :=
  ((plan options wantsTree source file).run environment file).2

/-- A stage that raises a template error is the last one that is run, and the compilation fails by
an error with the same text. From the compiler's stages on the error names the file that is
compiled; an error of the function for the content names what that function says, which may be
nothing. What is told is told of the stages that were run. And no other function or compiler can
make a difference that does not make one in these stages: the later ones are not run. -/
theorem compile_names_template (environment : Environment) (options : Options) (wantsTree : Bool)
    (source file : String) :
    let ran := stagesRun environment options wantsTree source file
    (∀ stage ∈ ran, ∀ text path, stage.outcome environment = .error (.template text path) →
      (∃ earlier, ran = earlier ++ [stage]) ∧
      ∀ events, (compile environment options wantsTree source file).run events =
        (.error (.template text (stage.named file path)), events ++ ran.flatMap Stage.told)) ∧
    ∀ other : Environment, (∀ stage ∈ ran, stage.outcome other = stage.outcome environment) →
      compile other options wantsTree source file =
        compile environment options wantsTree source file := by
  refine ⟨fun stage ran text path fails => ?_, fun other same => ?_⟩
  · obtain ⟨last, passes⟩ := Plan.run_of_failure ran fails
    refine ⟨last, fun events => ?_⟩
    change compile environment options wantsTree source file events = _
    rw [compile_eq, Plan.work_eq, passes, Stage.passOn_template, endEvents, List.append_nil]
    rfl
  · funext events
    rw [compile_eq, compile_eq, Plan.work_eq, Plan.work_eq, Plan.run_congr same]

/-- A source that the parser refuses: its error names the file, and neither the function for the
tree nor the compiler is asked. -/
theorem compile_names_template_of_a_refused_source :
    let options : Options := { processAst := some ⟨"hooks", "tree"⟩ }
    Stage.parse (.text "refuse") ∈ stagesRun refusing options false "refuse" "t/a.hbs" ∧
      (Stage.parse (.text "refuse")).outcome refusing = .error (.template "refused" none) ∧
      (compile refusing options false "refuse" "t/a.hbs").run [] =
        (.error (.template "refused" (some "t/a.hbs")), [.request (.parse (.text "refuse"))]) := by
  have ran : stagesRun refusing { processAst := some ⟨"hooks", "tree"⟩ } false "refuse" "t/a.hbs" =
      [.parse (.text "refuse")] := rfl
  have member : Stage.parse (.text "refuse") ∈
      stagesRun refusing { processAst := some ⟨"hooks", "tree"⟩ } false "refuse" "t/a.hbs" := by
    rw [ran]
    exact List.mem_singleton_self _
  have fails : (Stage.parse (.text "refuse")).outcome refusing =
      .error (.template "refused" none) := rfl
  have names := (compile_names_template refusing { processAst := some ⟨"hooks", "tree"⟩ } false
    "refuse" "t/a.hbs").1 _ member _ _ fails
  exact ⟨member, fails, names.2 []⟩

/-- Functions that refuse every template and name none. -/
def refusingContent : Environment :=
  { refusing with call := fun _ _ => .error (.template "todo left" none) }

/-- An error of the function for the content that names no file is passed on as it is, and names
none in the end. -/
theorem compile_keeps_content_error :
    let options : Options := { processContent := some ⟨"hooks", "content"⟩ }
    let compiled := (compile refusingContent options false "TODO" "t/a.hbs").run []
    (Stage.content ⟨"hooks", "content"⟩ "TODO" "t/a.hbs").outcome refusingContent =
        .error (.template "todo left" none) ∧
      compiled = (.error (.template "todo left" none), []) ∧
      ∀ text, compiled.1 ≠ .error (.template text (some "t/a.hbs")) := by
  refine ⟨rfl, rfl, fun text same => ?_⟩
  obtain ⟨_, names⟩ := Failure.template.inj (Except.error.inj same)
  simp at names

end TemplateBundle.Compilation
