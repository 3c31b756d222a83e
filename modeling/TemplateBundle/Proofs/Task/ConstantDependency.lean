import TemplateBundle.Proofs.Bundle.ConstantDependency
import TemplateBundle.Proofs.Task.Output
import TemplateBundle.Proofs.Template.Compilation

/-!
Contract: a task with a computed dependency that is always the same, beside one that names this
dependency.

Owns: that both open their outputs alike, compile each template to the same text, and write the
same; and the one case where they do not, in which the options for the compiler cannot be put
together.

Where each fragment has a wrapper, the task with the function parses every template first. The two
tasks then ask the compiler for different things.
-/

namespace TemplateBundle

variable {environment : Environment} {options : Options} {function : Callable}
  {dependency : String}

/-- Where one of the two tasks parses its templates and the other does not, the options for the
compiler can be put together if the compiler refuses a source. -/
def Environment.MergesOn (environment : Environment) (options : Options) : Prop :=
  options.wrapScope = .fragment → options.processAst = none → ∀ text file source failure,
    Compilation.content environment options text file = .ok source →
      environment.compiler.parse source = .error failure →
        ∃ settings, Compilation.compilerOptions options = .ok settings

/-- Two tasks under way whose outputs are the same, but for a dependency that one computes and the
other names. -/
inductive TaskState.Names (options : Options) (function : Callable) (dependency : String) :
    TaskState → TaskState → Prop
  | same {bundle twin : Bundle} (stream : OutputStream) :
      Bundle.Names options function dependency bundle twin →
      Names options function dependency ⟨bundle, stream⟩ ⟨twin, stream⟩

namespace Task

open Work

theorem wantsTree_named (options : Options) (dependency : String) :
    wantsTree (options.depending (.named dependency)) = false := by
  unfold wantsTree
  rw [Options.depending_wrapScope]
  cases options.wrapScope <;> rfl

theorem wantsTree_computed (options : Options) (function : Callable) :
    wantsTree (options.depending (.computed function)) =
      decide (options.wrapScope = .fragment) := by
  unfold wantsTree
  rw [Options.depending_wrapScope]
  cases options.wrapScope <;> rfl

/-- The compiled text is the same, whether the template is parsed first or not. -/
theorem compile_constant (agrees : environment.AgreesOn options)
    (merges : environment.MergesOn options)
    (function : Callable) (dependency : String) (source file : String) :
    let computed := options.depending (.computed function)
    let named := options.depending (.named dependency)
    (Compilation.outcome environment computed (wantsTree computed) source file).map
        Compiled.body =
      (Compilation.outcome environment named (wantsTree named) source file).map
        Compiled.body := by
  intro computed named
  have body (rule : DependencyRule String) (wants : Bool) :
      (Compilation.outcome environment (options.depending rule) wants source file).map
          Compiled.body =
        (Compilation.content environment options source file).bind fun given =>
          (((Compilation.staged environment options wants given).map Prod.fst).mapError
            (Compilation.nameTemplate file)).map (Compilation.expression options) :=
    Compilation.outcome_body environment (options.depending rule) wants source file
  rw [body, body, wantsTree_computed, wantsTree_named]
  by_cases scope : options.wrapScope = .fragment
  · rw [decide_eq_true scope]
    cases handed : Compilation.content environment options source file with
    | error failure => rfl
    | ok given =>
        have text := Compilation.staged_text (agrees source file given handed)
          fun parses failure => merges scope parses source file given failure handed
        change Except.map _ (Except.mapError _ _) = Except.map _ (Except.mapError _ _)
        rw [text]
  · rw [decide_eq_false scope]

/-- What becomes of a template is the same, but for its syntax tree. -/
theorem attempt_constant (agrees : environment.AgreesOn options)
    (merges : environment.MergesOn options)
    (function : Callable) (dependency : String) (tree : FileTree) (template : Template) :
    (attempt environment (options.depending (.computed function)) tree template).map
        (Option.map Compiled.body) =
      (attempt environment (options.depending (.named dependency)) tree template).map
        (Option.map Compiled.body) := by
  unfold attempt
  cases tree.read template.path with
  | error fault => rfl
  | ok bytes =>
      dsimp only
      cases Text.decodeUtf8? bytes with
      | none => rfl
      | some source =>
          dsimp only
          rw [Compilation.compile_yields _ _ _ _ _ [], Compilation.compile_yields _ _ _ _ _ []]
          rcases ends_of_map_eq
              (compile_constant agrees merges function dependency source template.file) with
            ⟨failure, fails, failsToo⟩ | ⟨compiled, compiledToo, compiles, compilesToo, same⟩
          · rw [fails, failsToo]
          · rw [compiles, compilesToo]
            exact congrArg (fun body => Except.ok (some body)) same

/-! ### The two tasks side by side -/

theorem compiled?_matches (agrees : environment.AgreesOn options)
    (merges : environment.MergesOn options)
    (function : Callable) (dependency : String) (template : Template) :
    Matches (fun one other => one.map Compiled.body = other.map Compiled.body)
      (compiled? environment (options.depending (.computed function)) template)
      (compiled? environment (options.depending (.named dependency)) template) := by
  intro tree
  rw [compiled?_effect, compiled?_effect]
  rcases ends_of_map_eq (attempt_constant agrees merges function dependency tree template) with
    ⟨failure, fails, failsToo⟩ | ⟨compiled, compiledToo, attempts, attemptsToo, same⟩
  · rw [fails, failsToo]
    exact .error rfl
  · rw [attempts, attemptsToo]
    exact .ok same rfl

/-- Works on two bundles that are alike are alike as parts of a task. -/
theorem assembling_matches {α : Type} {bundles : Bundle → Bundle → Prop} {bundle twin : Bundle}
    {work other : Assembling α} (same : bundles bundle twin)
    (like : Assembling.Matches bundles Eq work other) :
    Matches (fun one other => one.1 = other.1 ∧ bundles one.2 other.2)
      (assembling bundle work) (assembling twin other) := by
  intro tree
  have ends := like bundle twin same
  rw [assembling_effect, assembling_effect]
  generalize Assembling.effect work bundle = one at ends
  generalize Assembling.effect other twin = two at ends
  cases ends with
  | ok sameValue after => exact .ok ⟨sameValue, after⟩ rfl
  | error after => exact .error rfl

theorem openOutput_matches (always : environment.AlwaysDepends function dependency) :
    Matches (TaskState.Names options function dependency)
      (openOutput environment (options.depending (.computed function)))
      (openOutput environment (options.depending (.named dependency))) := by
  have starts : Bundle.Names options function dependency
      (Bundle.start (options.depending (.computed function)))
      (Bundle.start (options.depending (.named dependency))) := .same (Bundle.start options) rfl
  refine .andThen (.refl _) fun _ => ?_
  refine (assembling_matches starts (Bundle.preamble_matches always)).bind ?_
  rintro ⟨lines, bundle⟩ ⟨_, twin⟩ ⟨rfl, same⟩
  exact .andThen (.refl _) fun _ => .andThen (.refl _) fun stream => .pure (.same stream same)

theorem addTemplate_matches (always : environment.AlwaysDepends function dependency)
    (agrees : environment.AgreesOn options)
    (merges : environment.MergesOn options) {state other : TaskState}
    (same : TaskState.Names options function dependency state other) (template : Template) :
    Matches (TaskState.Names options function dependency)
      (addTemplate environment state template) (addTemplate environment other template) := by
  cases same with
  | same stream names =>
      cases names with
      | same bundle kept =>
          subst kept
          have names : Bundle.Names bundle.options function dependency _ _ := .same bundle rfl
          refine (compiled?_matches agrees merges function dependency template).bind
            fun one other sameBody => ?_
          rcases one with none | ⟨body, ast⟩
          · rcases other with none | compiled
            · exact .pure (.same stream (names.skip template.relative))
            · simp at sameBody
          · rcases other with none | ⟨bodyToo, astToo⟩
            · simp at sameBody
            · obtain rfl : body = bodyToo := Option.some.inj sameBody
              refine (assembling_matches names
                (Bundle.assemble_matches always template body ast astToo)).bind ?_
              rintro ⟨fragment, changed⟩ ⟨_, twin⟩ ⟨rfl, namesThen⟩
              exact .bind (.tell _ _) fun _ _ _ => .andThen (.refl _) fun _ =>
                .andThen (.refl _) fun stream => .pure (.same stream namesThen.count)

theorem addTemplates_matches (always : environment.AlwaysDepends function dependency)
    (agrees : environment.AgreesOn options)
    (merges : environment.MergesOn options) {state other : TaskState}
    (same : TaskState.Names options function dependency state other)
    (templates : List Template) :
    Matches (TaskState.Names options function dependency)
      (addTemplates environment state templates) (addTemplates environment other templates) := by
  induction templates generalizing state other with
  | nil => exact .pure same
  | cons template rest inductionHypothesis =>
      exact (addTemplate_matches always agrees merges same template).bind
        fun _ _ after => inductionHypothesis after

theorem closeOutput_matches {state other : TaskState}
    (same : TaskState.Names options function dependency state other) :
    Matches Eq (closeOutput state) (closeOutput other) := by
  cases same with
  | same stream names =>
      unfold closeOutput
      rw [names.ending]
      cases names with
      | same bundle kept => exact .refl _

theorem tellEnd_matches (bundle twin : Bundle) : Matches Eq (tellEnd bundle) (tellEnd twin) := by
  intro tree
  rw [tellEnd_effect, tellEnd_effect]
  exact .ok rfl rfl

theorem discover_matches (options : Options) (rule other : DependencyRule String) :
    Matches Eq (Template.discover (options.depending rule))
      (Template.discover (options.depending other)) := by
  intro tree
  have searches : Template.SearchesLike (options.depending other) (options.depending rule) :=
    ⟨rfl, rfl, rfl, rfl, rfl⟩
  rw [Template.discover_effect, Template.discover_effect, searches.discovered]
  cases Template.discovered (options.depending other) tree with
  | error failure => exact .error rfl
  | ok templates => exact .ok rfl rfl

theorem work_matches (always : environment.AlwaysDepends function dependency)
    (agrees : environment.AgreesOn options)
    (merges : environment.MergesOn options) :
    Matches Eq (work environment (options.depending (.computed function)))
      (work environment (options.depending (.named dependency))) := by
  unfold work
  cases environment.compiler.available with
  | error failure => exact fun tree => .error rfl
  | ok _ =>
      refine .andThen (.refl _) fun _ => ?_
      refine (openOutput_matches always).bind fun state other opened => ?_
      refine .andThen (discover_matches options _ _) fun templates => ?_
      refine (addTemplates_matches always agrees merges opened templates).bind
        fun state other added => ?_
      refine .andThen (closeOutput_matches added) fun _ => ?_
      refine .andThen (tellEnd_matches _ _) fun _ => ?_
      cases added with
      | same stream names => exact .pure names.report

/-- Where a function answers one dependency for all templates, and the compiler gives the same text
with and without a syntax tree, a task with this function ends as the task that names the
dependency does, and leaves the same tree: with the same report or for the same reason, in both
wrap scopes. Only the options for the compiler have to be such that they can be put together, if
the compiler refuses a source. -/
theorem run_of_constant_dependency (always : environment.AlwaysDepends function dependency)
    (agrees : environment.AgreesOn options)
    (merges : environment.MergesOn options) (tree : FileTree) :
    let computed := (run environment (options.depending (.computed function))).run tree
    let named := (run environment (options.depending (.named dependency))).run tree
    computed.value = named.value ∧ computed.tree = named.tree := by
  have ends := work_matches always agrees merges tree
  dsimp only
  rw [Program.run_value, Program.run_value, Program.run_tree, Program.run_tree]
  change (Work.effect _ tree).1 = (Work.effect _ tree).1 ∧
    (Work.effect _ tree).2 = (Work.effect _ tree).2
  generalize Work.effect (work environment _) tree = one at ends
  generalize Work.effect (work environment _) tree = other at ends
  cases ends with
  | ok sameValue sameTree => exact ⟨congrArg Except.ok sameValue, sameTree⟩
  | error sameTree => exact ⟨rfl, sameTree⟩

/-- A compiler whose syntax tree is the source in a list, with a function that always answers
`dep`. -/
def parsing : Environment where
  call := fun _ _ => .ok (.text "dep")
  compiler :=
    { available := .ok ()
      parse := fun source =>
        match source with
        | .text "refuse" => .error (.template "refused" none)
        | source => .ok (.list [source])
      precompile := fun source _ =>
        match source with
        | .list [.text text] => .ok text
        | .text "refuse" => .error (.template "refused" none)
        | .text text => .ok text
        | _ => .ok "" }

theorem parsing_agrees (text : String) (settings : Value) :
    parsing.compiler.Agrees (.text text) settings := by
  by_cases refused : text = "refuse"
  · subst refused
    exact rfl
  · unfold Compiler.Agrees parsing
    simp [refused]

theorem parsing_agreesOn (options : Options) (plain : options.processContent = none) :
    parsing.AgreesOn options := by
  intro text file source handed settings
  unfold Compilation.content at handed
  rw [plain] at handed
  obtain rfl : Value.text text = source := Except.ok.inj handed
  exact parsing_agrees text settings

theorem parsing_always (function : Callable) : parsing.AlwaysDepends function "dep" where
  answers _ _ _ := rfl
  filled := by decide

/-- Options with a helper, where each fragment has a wrapper. -/
def helperOptions : Options :=
  { threeOptions with wrapScope := .fragment, knownHelpers := .listed ["x"] }

theorem run_of_constant_dependency_of_three_templates :
    let named := (run parsing (helperOptions.depending (.named "dep"))).run threeTemplates
    named.value = .ok ⟨⟨0, ["out.js"]⟩, 2, ["a.hbs"]⟩ ∧
      ((run parsing (helperOptions.depending (.computed ⟨"hooks", "dependency"⟩))).run
        threeTemplates).value = named.value := by
  have same := run_of_constant_dependency (parsing_always ⟨"hooks", "dependency"⟩)
    (parsing_agreesOn helperOptions rfl) (fun _ _ _ _ _ _ _ _ => ⟨_, rfl⟩) threeTemplates
  intro named
  have completes : named.value = .ok ⟨⟨0, ["out.js"]⟩, 2, ["a.hbs"]⟩ :=
    ok_of_toOption (by decide +kernel)
  exact ⟨completes, same.1⟩

/-- A number stands where the compiler looks for the helpers. -/
def numberOptions : Options :=
  { inputDir := ⟨0, ["t"]⟩, outputFile := "o.js", wrapScope := .fragment,
    knownHelpers := .listed ["x"], compilerOptions := [(.text "knownHelpers", .int 7)] }

/-- A directory with one template, which the compiler refuses. -/
def refusedTemplate : FileTree where
  entries := [(["t"], .directory), (["t", "a.hbs"], .file "refuse".toUTF8 false)]
  home := []

/-- Without options for the compiler that can be put together, a template that the compiler refuses
is skipped by the task that parses it, and breaks off the other. -/
theorem run_of_constant_dependency_differs :
    parsing.AlwaysDepends ⟨"hooks", "dependency"⟩ "dep" ∧
      (∀ text settings, parsing.compiler.Agrees (.text text) settings) ∧
      ((run parsing (numberOptions.depending (.computed ⟨"hooks", "dependency"⟩))).run
        refusedTemplate).value = .ok ⟨⟨0, ["o.js"]⟩, 0, ["a.hbs"]⟩ ∧
      ((run parsing (numberOptions.depending (.named "dep"))).run refusedTemplate).value =
        .error (.mishap .wrongType "'int' object is not a mapping") :=
  ⟨parsing_always _, parsing_agrees, ok_of_toOption (by decide +kernel),
    error_of_mishap? (by decide +kernel)⟩

end Task

end TemplateBundle
