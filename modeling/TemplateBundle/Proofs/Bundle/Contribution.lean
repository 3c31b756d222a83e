import TemplateBundle.Proofs.Bundle.Assembly
import TemplateBundle.Proofs.Namespace.Declarations

/-!
Contract: the one statement that stands for a template.

Owns: the namespace and the statement that a template asks for, as a function of the options and
the template alone, and the equation of a fragment: between the wrappers stand the declaration
of what is missing of the namespace, and the statement.

Does not own: what is declared already (`Namespace.Registry`), nor the order of fragments.
-/

namespace TemplateBundle

/-- What a template asks for: its name, the namespace it is assigned into, if it is assigned into
one, and the statement that stands for it. -/
structure Contribution where
  name : Value
  entered : Option (List String)
  statement : Statement

/-- The statement returns something to whoever loads the module. -/
def Statement.isReturn : Statement → Bool
  | .returnTemplate _ => true
  | .returnTemplateBare _ => true
  | .returnShared _ => true
  | .returnLast _ => true
  | _ => false

/-- What work on a bundle comes to: a value and the bundle with it, or a failure. -/
def Assembling.outcome {α : Type} (work : Assembling α) (bundle : Bundle) :
    Except Failure (α × Bundle) :=
  match Assembling.effect work bundle with
  | (.ok value, changed) => .ok (value, changed)
  | (.error failure, _) => .error failure

namespace Bundle

open Assembling

variable {environment : Environment} {options : Options} {bundle after : Bundle}
  {template : Template} {name ast : Value} {body : String} {asked : Contribution}

/-- What a template asks for that is assigned into a namespace. -/
def insideNamespace (environment : Environment) (options : Options) (template : Template)
    (name : Value) (statement : List String → Statement) : Except Failure Contribution :=
  match options.namespaceRule.target environment template.file with
  | .error failure => .error failure
  | .ok target => (checkName name).map fun _ => ⟨name, some target, statement target⟩

/-- What a template asks for under a name. -/
def contributionAs (environment : Environment) (options : Options) (template : Template)
    (name : Value) (body : String) : Except Failure Contribution :=
  if template.isPartial then
    if options.partialsUseNamespace then
      insideNamespace environment options template name
        fun target => .registerIn options.runtime name target body
    else (checkName name).map fun _ => ⟨name, none, .register options.runtime name body⟩
  else if options.usesNamespace then
    insideNamespace environment options template name fun target => .assign target name body
  else .ok ⟨name, none, plainTemplate options body⟩

/-- What a template asks for. -/
def contribution (environment : Environment) (options : Options) (template : Template)
    (body : String) : Except Failure Contribution :=
  match templateName environment options template with
  | .error failure => .error failure
  | .ok name => contributionAs environment options template name body

/-- The bundle after a namespace is entered, if one is. -/
def enteringSome (bundle : Bundle) : Option (List String) → Bundle
  | none => bundle
  | some target => bundle.entering target

/-- The statement that declares what is missing of a namespace, if one is entered. -/
def missingSome (bundle : Bundle) : Option (List String) → List Statement
  | none => []
  | some target => bundle.missing target

/-- What a template adds between its wrappers. -/
def additions (bundle : Bundle) (asked : Contribution) : List Statement :=
  bundle.missingSome asked.entered ++ [asked.statement]

/-- The wrappers of a fragment: openings and closings where each fragment has them. -/
def wrappers (environment : Environment) (bundle : Bundle) (name ast : Value) (body : String) :
    Except Failure (List Statement × List Statement) :=
  match bundle.options.wrapScope with
  | .output => .ok ([], [])
  | .fragment =>
      (opening environment bundle.options name ast (.text body)).map fun lines =>
        (lines, closing bundle.options bundle.registry bundle.target)

/-- The statements of a template's fragment, and the bundle with it. -/
def extended (environment : Environment) (bundle : Bundle) (template : Template) (body : String)
    (ast : Value) : Except Failure (List Statement × Bundle) :=
  match contribution environment bundle.options template body with
  | .error failure => .error failure
  | .ok asked =>
      let after := bundle.enteringSome asked.entered
      (wrappers environment after asked.name ast body).map fun around =>
        (around.1 ++ bundle.additions asked ++ around.2, after)

/-- The statements of a core, in the order they are written. -/
def Core.statements (core : Core) : List Statement :=
  core.declarations ++ core.partials ++ core.templates

theorem enteringSome_options (bundle : Bundle) (entered : Option (List String)) :
    (bundle.enteringSome entered).options = bundle.options := by
  cases entered <;> rfl

theorem insideNamespace_ok {statement : List String → Statement}
    (asks : insideNamespace environment options template name statement = .ok asked) :
    ∃ target, options.namespaceRule.target environment template.file = .ok target ∧
      asked = ⟨name, some target, statement target⟩ := by
  unfold insideNamespace at asks
  cases named : options.namespaceRule.target environment template.file with
  | error failure => simp [named] at asks
  | ok target =>
      rw [named] at asks
      dsimp only at asks
      cases checked : checkName name with
      | error failure => simp [checked, Except.map] at asks
      | ok _ =>
          rw [checked] at asks
          exact ⟨target, rfl, (Except.ok.inj asks).symm⟩

/-- What is known of what a template asks for: a statement that goes into the namespace that the
rule names for it, or one that goes nowhere. Only the latter returns a template, and only inside
a wrapper. -/
inductive Asks (environment : Environment) (options : Options) (template : Template)
    (name : Value) : Contribution → Prop
  | inside (target : List String) (statement : Statement) :
      options.namespaceRule.target environment template.file = .ok target →
      statement.isContribution = true → statement.target? = some target →
      statement.isReturn = false →
      Asks environment options template name ⟨name, some target, statement⟩
  | outside (statement : Statement) : statement.isContribution = true →
      statement.target? = none →
      (statement.isReturn = true → options.commonjs = true ∨ options.amd.isOn = true) →
      Asks environment options template name ⟨name, none, statement⟩

private theorem plainTemplate_asks (environment : Environment) (options : Options)
    (template : Template) (name : Value) (body : String) :
    Asks environment options template name ⟨name, none, plainTemplate options body⟩ := by
  unfold plainTemplate
  by_cases commonjs : options.commonjs = true
  · rw [if_pos commonjs]
    exact .outside _ rfl rfl fun _ => .inl commonjs
  · rw [if_neg commonjs]
    by_cases amd : options.amd.isOn = true
    · rw [if_pos amd]
      exact .outside _ rfl rfl fun _ => .inr amd
    · rw [if_neg amd]
      exact .outside _ rfl rfl fun returns => by simp [Statement.isReturn] at returns

theorem contributionAs_ok
    (asks : contributionAs environment options template name body = .ok asked) :
    Asks environment options template name asked := by
  unfold contributionAs at asks
  by_cases isPartial : template.isPartial = true
  · rw [if_pos isPartial] at asks
    by_cases uses : options.partialsUseNamespace = true
    · rw [if_pos uses] at asks
      obtain ⟨target, names, rfl⟩ := insideNamespace_ok asks
      exact .inside target _ names rfl rfl rfl
    · rw [if_neg uses] at asks
      cases checked : checkName name with
      | error failure => simp [checked, Except.map] at asks
      | ok _ =>
          rw [checked] at asks
          obtain rfl := Except.ok.inj asks
          exact .outside _ rfl rfl fun returns => by simp [Statement.isReturn] at returns
  · rw [if_neg isPartial] at asks
    by_cases uses : options.usesNamespace = true
    · rw [if_pos uses] at asks
      obtain ⟨target, names, rfl⟩ := insideNamespace_ok asks
      exact .inside target _ names rfl rfl rfl
    · rw [if_neg uses] at asks
      obtain rfl := Except.ok.inj asks
      exact plainTemplate_asks environment options template name body

theorem Asks.name_eq (known : Asks environment options template name asked) :
    asked.name = name := by
  cases known <;> rfl

theorem Asks.contributes (known : Asks environment options template name asked) :
    asked.statement.isContribution = true := by
  cases known <;> assumption

theorem Asks.target?_eq (known : Asks environment options template name asked) :
    asked.statement.target? = asked.entered := by
  cases known <;> assumption

theorem Asks.wraps (known : Asks environment options template name asked)
    (returns : asked.statement.isReturn = true) :
    options.commonjs = true ∨ options.amd.isOn = true := by
  cases known with
  | inside _ _ _ _ _ returnsNot => simp [returnsNot] at returns
  | outside _ _ _ wraps => exact wraps returns

/-- What is entered is what the rule names for the template. -/
theorem Asks.target (known : Asks environment options template name asked)
    {target : List String} (enters : asked.entered = some target) :
    options.namespaceRule.target environment template.file = .ok target := by
  cases known with
  | inside other statement names _ _ _ => exact Option.some.inj enters ▸ names
  | outside _ _ _ _ => simp at enters

theorem contribution_ok (asks : contribution environment options template body = .ok asked) :
    Asks environment options template asked.name asked := by
  unfold contribution at asks
  cases named : templateName environment options template with
  | error failure => simp [named] at asks
  | ok name =>
      rw [named] at asks
      have known := contributionAs_ok asks
      rw [known.name_eq]
      exact known

/-! ### What is added, and what is around it -/

theorem missingSome_declares {entered : Option (List String)} {statement : Statement}
    (member : statement ∈ bundle.missingSome entered) :
    ∃ paths, paths ≠ [] ∧ statement = .declare paths := by
  cases entered with
  | none => simp [missingSome] at member
  | some target => exact missing_declares member

theorem additions_filled (contributes : asked.statement.isContribution = true) :
    ∀ statement ∈ bundle.additions asked, statement.IsFilled := by
  intro statement member
  rcases List.mem_append.mp member with declared | itself
  · obtain ⟨paths, some, rfl⟩ := missingSome_declares declared
    exact fun none => some (Statement.declare.inj none)
  · rw [List.mem_singleton.mp itself]
    exact Statement.filled_of_isContribution contributes

/-- The declaration of a namespace contributes nothing. -/
theorem missing_contributions (bundle : Bundle) (target : List String) :
    (bundle.missing target).filter Statement.isContribution = [] := by
  refine List.filter_eq_nil_iff.mpr fun statement member => ?_
  obtain ⟨paths, _, rfl⟩ := missing_declares member
  simp [Statement.isContribution]

/-- A template adds one contribution, its own. -/
theorem additions_contributions (contributes : asked.statement.isContribution = true) :
    (bundle.additions asked).filter Statement.isContribution = [asked.statement] := by
  have none : (bundle.missingSome asked.entered).filter Statement.isContribution = [] := by
    cases asked.entered with
    | none => rfl
    | some target => exact missing_contributions bundle target
  rw [additions, List.filter_append, none]
  simp [contributes]

theorem wrappers_ok {lines ends : List Statement}
    (wraps : wrappers environment bundle name ast body = .ok (lines, ends)) :
    (bundle.options.wrapScope = .output ∧ lines = [] ∧ ends = []) ∨
      bundle.options.wrapScope = .fragment ∧
        opening environment bundle.options name ast (.text body) = .ok lines ∧
        ends = closing bundle.options bundle.registry bundle.target := by
  unfold wrappers at wraps
  cases scope : bundle.options.wrapScope with
  | output =>
      simp only [scope, Except.ok.injEq, Prod.mk.injEq] at wraps
      exact .inl ⟨rfl, wraps.1.symm, wraps.2.symm⟩
  | fragment =>
      rw [scope] at wraps
      dsimp only at wraps
      cases opened : opening environment bundle.options name ast (.text body) with
      | error failure => simp [opened, Except.map] at wraps
      | ok found =>
          simp only [opened, Except.map, Except.ok.injEq, Prod.mk.injEq] at wraps
          exact .inr ⟨rfl, by rw [wraps.1], wraps.2.symm⟩

/-- Around what is added there are only wrappers. -/
theorem wrappers_wrap {lines ends : List Statement}
    (wraps : wrappers environment bundle name ast body = .ok (lines, ends)) :
    (∀ statement ∈ lines, statement.isWrapper = true) ∧
      ∀ statement ∈ ends, statement.isWrapper = true := by
  rcases wrappers_ok wraps with ⟨_, rfl, rfl⟩ | ⟨_, opened, rfl⟩
  · simp
  · exact ⟨opening_isWrapper opened, closing_isWrapper⟩

/-! ### The equation of a fragment -/

section Outcome

variable {α β : Type}

theorem outcome_ok {work : Assembling α} {value : α} :
    outcome work bundle = .ok (value, after) ↔
      Assembling.effect work bundle = (.ok value, after) := by
  unfold outcome
  rcases Assembling.effect work bundle with ⟨failure | found, changed⟩
  · simp
  · simp

theorem outcome_bind (work : Assembling α) (following : α → Assembling β) (bundle : Bundle) :
    outcome (work >>= following) bundle =
      match outcome work bundle with
      | .ok (value, changed) => outcome (following value) changed
      | .error failure => .error failure := by
  unfold outcome
  rw [effect_bind]
  rcases Assembling.effect work bundle with ⟨failure | value, changed⟩
  · rfl
  · rfl

@[simp] theorem outcome_pass (result : Except Failure α) (bundle : Bundle) :
    outcome (pass result) bundle = result.map fun value => (value, bundle) := by
  cases result <;> rfl

@[simp] theorem outcome_get (bundle : Bundle) :
    outcome (get : Assembling Bundle) bundle = .ok (bundle, bundle) := rfl

@[simp] theorem outcome_pure (value : α) (bundle : Bundle) :
    outcome (pure value) bundle = .ok (value, bundle) := rfl

end Outcome

theorem resolveBy_outcome (environment : Environment) (rule : NamespaceRule) (file : String)
    (bundle : Bundle) :
    outcome (resolveBy environment rule file) bundle =
      (rule.target environment file).map fun target =>
        ((bundle.registry.declareTo target).1, bundle.entering target) := by
  unfold outcome
  rw [resolveBy_effect]
  cases rule.target environment file <;> rfl

private theorem inside_outcome (bundle : Bundle) {make : Namespace.Resolution → Core}
    {statement : List String → Statement}
    (makes : ∀ resolution, (make resolution).statements =
      declarations resolution ++ [statement resolution.target]) :
    (outcome (do
        let resolution ← resolveBy environment bundle.options.namespaceRule template.file
        pass (checkName name)
        pure (make resolution)) bundle).map
        (fun made => (made.1.statements, made.2)) =
      (insideNamespace environment bundle.options template name statement).map
        fun asked => (bundle.additions asked, bundle.enteringSome asked.entered) := by
  rw [outcome_bind, resolveBy_outcome]
  unfold insideNamespace
  cases bundle.options.namespaceRule.target environment template.file with
  | error failure => rfl
  | ok target =>
      dsimp only [Except.map]
      rw [outcome_bind, outcome_pass]
      cases checkName name with
      | error failure => rfl
      | ok _ =>
          simp only [Except.map, outcome_pure, makes]
          rw [Namespace.Registry.declareTo_eq, additions, missingSome, missing,
            Namespace.Registry.declareTo_eq, enteringSome]

/-- The core of a template is what the template asks for. -/
theorem core_outcome (environment : Environment) (bundle : Bundle) (template : Template)
    (name : Value) (body : String) :
    (outcome (core environment template name body) bundle).map
        (fun made => (made.1.statements, made.2)) =
      (contributionAs environment bundle.options template name body).map
        fun asked => (bundle.additions asked, bundle.enteringSome asked.entered) := by
  unfold core contributionAs
  rw [outcome_bind, outcome_get]
  dsimp only
  by_cases isPartial : template.isPartial = true
  · rw [if_pos isPartial, if_pos isPartial]
    by_cases uses : bundle.options.partialsUseNamespace = true
    · rw [if_pos uses, if_pos uses]
      exact inside_outcome bundle fun resolution => by simp [Core.statements]
    · rw [if_neg uses, if_neg uses, outcome_bind, outcome_pass]
      cases checkName name <;> rfl
  · rw [if_neg isPartial, if_neg isPartial]
    by_cases uses : bundle.options.usesNamespace = true
    · rw [if_pos uses, if_pos uses]
      exact inside_outcome bundle fun resolution => by simp [Core.statements]
    · rw [if_neg uses, if_neg uses]
      rfl

private theorem wrapped_outcome {core : Core} (name ast : Value) (body : String)
    (sameOptions : bundle.options = options) :
    (outcome (match options.wrapScope with
        | .output => pure ⟨name, [], core.declarations, core.partials, core.templates, []⟩
        | .fragment => do
            let lines ← pass (opening environment options name ast (.text body))
            let last ← get
            pure (⟨name, lines, core.declarations, core.partials, core.templates,
              closing options last.registry last.target⟩ : Fragment)) bundle).map
        (fun made => (made.1.statements, made.2)) =
      (wrappers environment bundle name ast body).map
        fun around => (around.1 ++ core.statements ++ around.2, bundle) := by
  unfold wrappers
  rw [sameOptions]
  cases options.wrapScope with
  | output => simp [Except.map, Fragment.statements, Core.statements]
  | fragment =>
      dsimp only
      rw [outcome_bind, outcome_pass]
      cases opening environment options name ast (.text body) with
      | error failure => rfl
      | ok lines =>
          dsimp only [Except.map]
          rw [outcome_bind, outcome_get]
          simp [Fragment.statements, Core.statements]

/-- A fragment is what its template asks for, between its wrappers. -/
theorem assemble_outcome (environment : Environment) (bundle : Bundle) (template : Template)
    (body : String) (ast : Value) :
    (outcome (assemble environment template body ast) bundle).map
        (fun made => (made.1.statements, made.2)) =
      extended environment bundle template body ast := by
  unfold assemble extended contribution
  rw [outcome_bind, outcome_get]
  dsimp only
  rw [outcome_bind, outcome_pass]
  cases templateName environment bundle.options template with
  | error failure => rfl
  | ok name =>
      dsimp only [Except.map]
      rw [outcome_bind]
      have cores := core_outcome environment bundle template name body
      cases asked : contributionAs environment bundle.options template name body with
      | error failure =>
          cases made : outcome (core environment template name body) bundle with
          | error other => simpa [made, asked, Except.map] using cores
          | ok found => simp [made, asked, Except.map] at cores
      | ok contribution =>
          cases made : outcome (core environment template name body) bundle with
          | error other => simp [made, asked, Except.map] at cores
          | ok found =>
              obtain ⟨core, after⟩ := found
              simp only [made, asked, Except.map, Except.ok.injEq, Prod.mk.injEq] at cores
              obtain ⟨sameStatements, rfl⟩ := cores
              dsimp only
              rw [← sameStatements, (contributionAs_ok asked).name_eq]
              exact wrapped_outcome name ast body (enteringSome_options _ _)

theorem assemble_of_refused {failure : Failure}
    (refused : contribution environment bundle.options template body = .error failure) :
    ∃ left, Assembling.effect (assemble environment template body ast) bundle =
      (.error failure, left) := by
  have same := assemble_outcome environment bundle template body ast
  unfold extended outcome at same
  rw [refused] at same
  rcases made : Assembling.effect (assemble environment template body ast) bundle with
    ⟨other | fragment, left⟩
  · simp only [made, Except.map, Except.error.injEq] at same
    rw [same]
    exact ⟨left, rfl⟩
  · simp [made, Except.map] at same

theorem assemble_of_asks {lines ends : List Statement}
    (asks : contribution environment bundle.options template body = .ok asked)
    (wraps : wrappers environment (bundle.enteringSome asked.entered) asked.name ast body =
      .ok (lines, ends)) :
    ∃ fragment, Assembling.effect (assemble environment template body ast) bundle =
        (.ok fragment, bundle.enteringSome asked.entered) ∧
      fragment.statements = lines ++ bundle.additions asked ++ ends := by
  have same := assemble_outcome environment bundle template body ast
  unfold extended at same
  rw [asks] at same
  dsimp only at same
  rw [wraps] at same
  cases made : outcome (assemble environment template body ast) bundle with
  | error failure => simp [made, Except.map] at same
  | ok found =>
      obtain ⟨fragment, after⟩ := found
      simp only [made, Except.map, Except.ok.injEq, Prod.mk.injEq] at same
      obtain ⟨statements, rfl⟩ := same
      exact ⟨fragment, outcome_ok.mp made, statements⟩

/-- A fragment that is assembled, taken apart. -/
theorem assemble_ok {fragment : Fragment}
    (succeeds : Assembling.effect (assemble environment template body ast) bundle =
      (.ok fragment, after)) :
    ∃ asked lines ends,
      contribution environment bundle.options template body = .ok asked ∧
      after = bundle.enteringSome asked.entered ∧
      wrappers environment after asked.name ast body = .ok (lines, ends) ∧
      fragment.statements = lines ++ bundle.additions asked ++ ends := by
  have same := assemble_outcome environment bundle template body ast
  rw [outcome_ok.mpr succeeds] at same
  unfold extended at same
  cases asks : contribution environment bundle.options template body with
  | error failure => simp [asks, Except.map] at same
  | ok asked =>
      rw [asks] at same
      dsimp only at same
      cases wraps :
          wrappers environment (bundle.enteringSome asked.entered) asked.name ast body with
      | error failure => simp [wraps, Except.map] at same
      | ok around =>
          simp only [wraps, Except.map, Except.ok.injEq, Prod.mk.injEq] at same
          obtain ⟨sameStatements, rfl⟩ := same
          exact ⟨asked, around.1, around.2, rfl, rfl, wraps, sameStatements⟩

end Bundle

end TemplateBundle
