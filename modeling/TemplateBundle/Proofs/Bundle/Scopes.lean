import TemplateBundle.Proofs.Bundle.Declarations
import TemplateBundle.Proofs.Options.Reading

/-!
Contract: one bundle, wrapped as a whole or fragment by fragment.

Owns: the relation between the two bundles in the making and the statements that each has come
to, that it holds of the preambles and is kept by every template, and that the two bundles come
to the same end.

A fixed namespace is declared before all fragments of a whole, and by the first fragment that
needs it where each is wrapped. Until then the whole is ahead.
-/

namespace TemplateBundle

open Namespace (pathsTo)
open Statement (declared targets)

/-- The options with a wrap scope. -/
def Options.scoped (options : Options) (scope : WrapScope) : Options :=
  { options with wrapScope := scope }

namespace Statement

/-- The statements that stand for templates. -/
def contributions (statements : List Statement) : List Statement :=
  statements.filter isContribution

variable {statements more : List Statement}

theorem contributions_append (first second : List Statement) :
    contributions (first ++ second) = contributions first ++ contributions second :=
  List.filter_append ..

theorem contributions_wrappers (wraps : ∀ statement ∈ more, statement.isWrapper = true) :
    contributions more = [] :=
  List.filter_eq_nil_iff.mpr fun statement member => by
    simp [isContribution_of_isWrapper (wraps statement member)]

theorem declared_wrappers (wraps : ∀ statement ∈ more, statement.isWrapper = true) :
    declared more = [] :=
  declared_silent fun statement member => silent_of_isWrapper (wraps statement member)

/-- Only what stands for a template assigns into a namespace. -/
theorem targets_contributions (statements : List Statement) :
    targets (contributions statements) = targets statements := by
  induction statements with
  | nil => rfl
  | cons statement rest inductionHypothesis =>
      unfold targets contributions at inductionHypothesis ⊢
      by_cases contributes : statement.isContribution = true
      · rw [List.filter_cons_of_pos contributes, List.filterMap_cons, List.filterMap_cons,
          inductionHypothesis]
      · have none : statement.target? = none := by
          cases statement <;> first | rfl | exact absurd rfl contributes
        rw [List.filter_cons_of_neg contributes, List.filterMap_cons, none]
        exact inductionHypothesis

end Statement

open Statement (contributions)

namespace Bundle

variable {environment : Environment} {options : Options} {bundle whole parts : Bundle}
  {written divided : List Statement} {template : Template} {name : Value} {body : String}
  {ast : Value}

/-! ### What does not depend on the scope -/

theorem opening_total (notComputed : ∀ function, options.amd ≠ .computed function)
    (environment : Environment) (name ast compiled : Value) :
    ∃ lines, opening environment options name ast compiled = .ok lines :=
  ⟨_, opening_fixed notComputed environment name ast compiled⟩

theorem declared_additions {asked : Contribution}
    (contributes : asked.statement.isContribution = true) (bundle : Bundle) :
    declared (bundle.additions asked) = (asked.entered.map bundle.registry.lacking).getD [] := by
  have silent : declared [asked.statement] = [] := by
    simp [declared, Statement.declares_of_isContribution contributes]
  unfold additions
  rw [Statement.declared_append, silent, List.append_nil]
  cases asked.entered with
  | none => rfl
  | some target => exact declared_missing bundle target

theorem contributions_additions {asked : Contribution}
    (contributes : asked.statement.isContribution = true) (bundle : Bundle) :
    contributions (bundle.additions asked) = [asked.statement] :=
  additions_contributions contributes

/-! ### The relation -/

/-- The fixed namespace is declared by the whole, and not yet by the parts. -/
structure Ahead (options : Options) (whole parts : Bundle) (written divided : List Statement)
    (target : List String) : Prop where
  fixed : ∀ environment file, options.namespaceRule.target environment file = .ok target
  wholeRegistry : whole.registry = (Namespace.Registry.empty.declareTo target).2
  partsRegistry : parts.registry = .empty
  declaredWritten : declared written = pathsTo target
  declaredDivided : declared divided = []
  unused : targets divided = []

/-- A bundle that is wrapped as a whole and one that is wrapped in parts carry the same. -/
structure Twin (options : Options) (whole parts : Bundle) (written divided : List Statement) :
    Prop where
  wholeOptions : whole.options = options.scoped .output
  partsOptions : parts.options = options.scoped .fragment
  compiled : whole.compiled = parts.compiled
  skipped : whole.skipped = parts.skipped
  contributions : contributions written = contributions divided
  declarations : (whole.registry = parts.registry ∧ declared written = declared divided) ∨
    ∃ target, Ahead options whole parts written divided target

variable {asked : Contribution} {target entered : List String}

namespace Ahead

/-- A template that needs no namespace leaves the whole ahead. -/
theorem stays (ahead : Ahead options whole parts written divided target)
    (known : Asks environment options template name asked) (enters : asked.entered = none) :
    Ahead options whole parts (written ++ whole.additions asked)
      (divided ++ parts.additions asked) target := by
  have declaresNone (bundle : Bundle) : declared (bundle.additions asked) = [] := by
    rw [declared_additions known.contributes, enters]
    rfl
  have usesNone : targets (parts.additions asked) = [] := by
    rw [targets_additions known.target?_eq, enters]
    rfl
  refine { ahead with declaredWritten := ?_, declaredDivided := ?_, unused := ?_ }
  · rw [Statement.declared_append, declaresNone, List.append_nil]
    exact ahead.declaredWritten
  · rw [Statement.declared_append, declaresNone, List.append_nil]
    exact ahead.declaredDivided
  · rw [targets_append, usesNone, List.append_nil]
    exact ahead.unused

/-- With a template that needs the fixed namespace the parts catch up: the whole lacks nothing,
and the parts lack everything. -/
theorem catchesUp (ahead : Ahead options whole parts written divided target)
    (known : Asks environment options template name asked) (enters : asked.entered = some entered) :
    (whole.enteringSome asked.entered).registry = (parts.enteringSome asked.entered).registry ∧
      declared (written ++ whole.additions asked) = declared (divided ++ parts.additions asked) := by
  obtain rfl : entered = target :=
    Except.ok.inj ((known.target enters).symm.trans (ahead.fixed environment template.file))
  have lacksNone : whole.registry.lacking entered = [] := by
    rw [ahead.wholeRegistry]
    exact Namespace.Registry.lacking_entered .empty entered
  have lacksAll : parts.registry.lacking entered = pathsTo entered := by
    rw [ahead.partsRegistry]
    exact Namespace.Registry.lacking_empty entered
  constructor
  · rw [enters]
    change (whole.registry.declareTo entered).2 = (parts.registry.declareTo entered).2
    rw [ahead.partsRegistry, ← ahead.wholeRegistry, Namespace.Registry.declareTo_eq, lacksNone]
    simp
  · rw [Statement.declared_append, Statement.declared_append,
      declared_additions known.contributes, declared_additions known.contributes, enters,
      ahead.declaredWritten, ahead.declaredDivided]
    simp [lacksNone, lacksAll]

end Ahead

namespace Twin

/-- Wrappers make no difference. -/
theorem wrap (twin : Twin options whole parts written divided) (more others : List Statement)
    (wraps : ∀ statement ∈ more, statement.isWrapper = true)
    (wrapsToo : ∀ statement ∈ others, statement.isWrapper = true) :
    Twin options whole parts (written ++ more) (divided ++ others) where
  wholeOptions := twin.wholeOptions
  partsOptions := twin.partsOptions
  compiled := twin.compiled
  skipped := twin.skipped
  contributions := by
    rw [Statement.contributions_append, Statement.contributions_append,
      Statement.contributions_wrappers wraps, Statement.contributions_wrappers wrapsToo,
      twin.contributions]
  declarations := by
    have sameWritten : declared (written ++ more) = declared written := by
      rw [Statement.declared_append, Statement.declared_wrappers wraps, List.append_nil]
    have sameDivided : declared (divided ++ others) = declared divided := by
      rw [Statement.declared_append, Statement.declared_wrappers wrapsToo, List.append_nil]
    rw [sameWritten, sameDivided]
    rcases twin.declarations with level | ⟨target, ahead⟩
    · exact .inl level
    · refine .inr ⟨target, { ahead with
        declaredWritten := sameWritten.trans ahead.declaredWritten
        declaredDivided := sameDivided.trans ahead.declaredDivided
        unused := ?_ }⟩
      rw [← Statement.targets_contributions, Statement.contributions_append,
        Statement.contributions_wrappers wrapsToo, List.append_nil,
        Statement.targets_contributions]
      exact ahead.unused

/-- What a template adds to both makes no difference; a fixed namespace that it needs is now
declared by both. -/
theorem add (twin : Twin options whole parts written divided)
    (known : Asks environment options template name asked) :
    Twin options (whole.enteringSome asked.entered) (parts.enteringSome asked.entered)
      (written ++ whole.additions asked) (divided ++ parts.additions asked) where
  wholeOptions := (enteringSome_options _ _).trans twin.wholeOptions
  partsOptions := (enteringSome_options _ _).trans twin.partsOptions
  compiled := by
    cases asked.entered <;> exact twin.compiled
  skipped := by
    cases asked.entered <;> exact twin.skipped
  contributions := by
    rw [Statement.contributions_append, Statement.contributions_append,
      contributions_additions known.contributes, contributions_additions known.contributes,
      twin.contributions]
  declarations := by
    rcases twin.declarations with ⟨sameRegistry, sameDeclared⟩ | ⟨target, ahead⟩
    · left
      rw [Statement.declared_append, Statement.declared_append,
        declared_additions known.contributes, declared_additions known.contributes,
        sameDeclared, sameRegistry]
      cases asked.entered with
      | none => exact ⟨sameRegistry, rfl⟩
      | some target =>
          refine ⟨?_, rfl⟩
          change (whole.registry.declareTo target).2 = (parts.registry.declareTo target).2
          rw [sameRegistry]
    · cases enters : asked.entered with
      | none => exact .inr ⟨target, ahead.stays known enters⟩
      | some entered =>
          rw [← enters]
          exact .inl (ahead.catchesUp known enters)

theorem count (twin : Twin options whole parts written divided) :
    Twin options whole.count parts.count written divided :=
  { twin with
    compiled := congrArg (· + 1) twin.compiled
    declarations := by
      rcases twin.declarations with level | ⟨target, ahead⟩
      · exact .inl level
      · exact .inr ⟨target, { ahead with }⟩ }

theorem skip (twin : Twin options whole parts written divided) (relative : String) :
    Twin options (whole.skip relative) (parts.skip relative) written divided :=
  { twin with
    skipped := congrArg (· ++ [relative]) twin.skipped
    declarations := by
      rcases twin.declarations with level | ⟨target, ahead⟩
      · exact .inl level
      · exact .inr ⟨target, { ahead with }⟩ }

theorem report (twin : Twin options whole parts written divided) :
    whole.report = parts.report := by
  unfold Bundle.report
  rw [twin.wholeOptions, twin.partsOptions, twin.compiled, twin.skipped]
  rfl

/-- A template has a fragment in both, or is refused by both. -/
theorem assemble (twin : Twin options whole parts written divided)
    (notComputed : ∀ function, options.amd ≠ .computed function) (environment : Environment)
    (template : Template) (body : String) (ast : Value) :
    (∃ failure left other,
      Assembling.effect (assemble environment template body ast) whole = (.error failure, left) ∧
      Assembling.effect (assemble environment template body ast) parts = (.error failure, other)) ∨
    ∃ fragment piece last final,
      Assembling.effect (assemble environment template body ast) whole = (.ok fragment, last) ∧
      Assembling.effect (assemble environment template body ast) parts = (.ok piece, final) ∧
      Twin options last final (written ++ fragment.statements) (divided ++ piece.statements) := by
  have wholeAsks : contribution environment whole.options template body =
      contribution environment options template body := by
    rw [twin.wholeOptions]
    rfl
  have partsAsks : contribution environment parts.options template body =
      contribution environment options template body := by
    rw [twin.partsOptions]
    rfl
  cases asks : contribution environment options template body with
  | error failure =>
      obtain ⟨left, fails⟩ := assemble_of_refused (wholeAsks.trans asks)
      obtain ⟨other, failsToo⟩ := assemble_of_refused (partsAsks.trans asks)
      exact .inl ⟨failure, left, other, fails, failsToo⟩
  | ok asked =>
      have added := twin.add (contribution_ok asks)
      obtain ⟨lines, opened⟩ := opening_total notComputed environment asked.name ast (.text body)
      have noWrappers :
          wrappers environment (whole.enteringSome asked.entered) asked.name ast body =
            .ok ([], []) := by
        unfold wrappers
        rw [added.wholeOptions]
        rfl
      have ownWrappers :
          wrappers environment (parts.enteringSome asked.entered) asked.name ast body =
            .ok (lines, closing (options.scoped .fragment)
              (parts.enteringSome asked.entered).registry
              (parts.enteringSome asked.entered).target) := by
        unfold wrappers
        rw [added.partsOptions]
        change Except.map _ (opening environment options asked.name ast (.text body)) = _
        rw [opened]
        rfl
      obtain ⟨fragment, makes, statements⟩ := assemble_of_asks (wholeAsks.trans asks) noWrappers
      obtain ⟨piece, makesToo, pieceStatements⟩ :=
        assemble_of_asks (partsAsks.trans asks) ownWrappers
      refine .inr ⟨fragment, piece, _, _, makes, makesToo, ?_⟩
      obtain ⟨opens, closes⟩ := wrappers_wrap ownWrappers
      have around := ((twin.wrap [] lines (by simp) opens).add (contribution_ok asks)).wrap
        [] _ (by simp) closes
      rw [statements, pieceStatements]
      simpa using around

/-- Two bundles that carry the same are brought by the same templates to ends that carry the
same, or fail for the same reason. -/
theorem progress (twin : Twin options whole parts written divided)
    (notComputed : ∀ function, options.amd ≠ .computed function) (environment : Environment)
    (attempts : List Attempt) :
    (∃ failure, (progress environment whole attempts).outcome = .error failure ∧
      (progress environment parts attempts).outcome = .error failure) ∨
    ∃ fragments pieces last final,
      progress environment whole attempts = ⟨fragments, .ok last⟩ ∧
      progress environment parts attempts = ⟨pieces, .ok final⟩ ∧
      Twin options last final (written ++ fragments.flatMap Fragment.statements)
        (divided ++ pieces.flatMap Fragment.statements) := by
  induction attempts generalizing whole parts written divided with
  | nil => exact .inr ⟨[], [], whole, parts, rfl, rfl, by simpa using twin⟩
  | cons attempt rest inductionHypothesis =>
      obtain ⟨template, outcome⟩ := attempt
      match outcome with
      | .error failure => exact .inl ⟨failure, rfl, rfl⟩
      | .ok none =>
          rw [Bundle.progress, Bundle.progress]
          exact inductionHypothesis (twin.skip template.relative)
      | .ok (some compiled) =>
          rw [Bundle.progress, Bundle.progress]
          rcases twin.assemble notComputed environment template compiled.body compiled.ast with
            ⟨failure, left, other, fails, failsToo⟩ |
            ⟨fragment, piece, last, final, makes, makesToo, after⟩
          · rw [fails, failsToo]
            exact .inl ⟨failure, rfl, rfl⟩
          · rw [makes, makesToo]
            rcases inductionHypothesis after.count with
              ⟨failure, fails, failsToo⟩ | ⟨fragments, pieces, end_, ending, goes, goesToo, twins⟩
            · exact .inl ⟨failure, fails, failsToo⟩
            · refine .inr ⟨fragment :: fragments, piece :: pieces, end_, ending, ?_, ?_, ?_⟩
              · dsimp only
                rw [goes]
                rfl
              · dsimp only
                rw [goesToo]
                rfl
              · simpa using twins

end Twin

/-- Two bundles that are just begun carry the same after an opening of the whole. -/
theorem start_twin {lines : List Statement}
    (wraps : ∀ statement ∈ lines, statement.isWrapper = true) :
    Twin options (start (options.scoped .output)) (start (options.scoped .fragment)) lines [] where
  wholeOptions := rfl
  partsOptions := rfl
  compiled := rfl
  skipped := rfl
  contributions := Statement.contributions_wrappers wraps
  declarations := .inl ⟨rfl, Statement.declared_wrappers wraps⟩

/-- The preambles carry the same: nothing but, perhaps, a fixed namespace. -/
theorem preamble_twin (notComputed : ∀ function, options.amd ≠ .computed function)
    (splits : options.NamespaceSplits) (environment : Environment) :
    ∃ lines whole,
      Assembling.effect (preamble environment) (start (options.scoped .output)) =
        (.ok lines, whole) ∧
      Assembling.effect (preamble environment) (start (options.scoped .fragment)) =
        (.ok [], start (options.scoped .fragment)) ∧
      Twin options whole (start (options.scoped .fragment)) lines [] := by
  obtain ⟨lines, opened⟩ :=
    opening_total notComputed environment (.text options.outputFile) .null .null
  have begins : Twin options (start (options.scoped .output)) (start (options.scoped .fragment))
      lines [] := start_twin (opening_isWrapper opened)
  have front := preamble_effect environment (start (options.scoped .output))
  have scope : (start (options.scoped .output)).options.wrapScope = .output := rfl
  have opens : opening environment (start (options.scoped .output)).options
      (.text (start (options.scoped .output)).options.outputFile) .null .null = .ok lines := opened
  have sameRule : (start (options.scoped .output)).options.namespaceRule =
      options.namespaceRule := rfl
  rw [scope] at front
  dsimp only at front
  rw [opens, sameRule] at front
  dsimp only at front
  cases rule : options.namespaceRule with
  | off =>
      rw [rule] at front
      exact ⟨lines, _, front, rfl, begins⟩
  | computed function =>
      rw [rule] at front
      exact ⟨lines, _, front, rfl, begins⟩
  | fixed path =>
      obtain ⟨target, segments⟩ := splits path rule
      have named (environment : Environment) (file : String) :
          options.namespaceRule.target environment file = .ok target := by
        rw [rule]
        simp [NamespaceRule.target, Namespace.segmentsOrFailure, segments]
      rw [rule] at front
      simp only [Namespace.segmentsOrFailure, segments] at front
      have lacksAll : declared ((start (options.scoped .output)).missing target) =
          pathsTo target :=
        (declared_missing _ target).trans (Namespace.Registry.lacking_empty target)
      refine ⟨_, _, front, rfl,
        { begins with contributions := ?_, declarations := .inr ⟨target, ?_⟩ }⟩
      · have none : contributions ((start (options.scoped .output)).missing target) = [] :=
          missing_contributions _ target
        rw [Statement.contributions_append, none, List.append_nil]
        exact begins.contributions
      · exact
          { fixed := named
            wholeRegistry := rfl
            partsRegistry := rfl
            declaredWritten := by
              rw [Statement.declared_append, lacksAll,
                Statement.declared_wrappers (opening_isWrapper opened), List.nil_append]
            declaredDivided := rfl
            unused := rfl }

end Bundle

end TemplateBundle
