import TemplateBundle.Options.Overrides
import TemplateBundle.Proofs.Bridge
import TemplateBundle.Proofs.Template.Compilation
import TemplateBundle.Proofs.Value.Entries

/-!
Contract: the options that are handed to the compiler.

Owns: what they hold, the one way in which they cannot be put together, and the law that a template
without functions of its own fails by a failure of the compiler, or else for that reason.
-/

namespace TemplateBundle

/-- There are helpers to add, and what stands in the options for the compiler in their place is no
map. -/
def Options.Clashes (options : Options) (present : Value) : Prop :=
  options.knownHelpersMap ≠ [] ∧
    options.compilerOptions.getText? "knownHelpers" = some present ∧
    ∀ entries, present ≠ .map entries

/-- The failure to add to a value that is no map. -/
def Failure.notAMap (present : Value) : Failure :=
  .mishap .wrongType (Text.quoted present.kindName ++ " object is not a mapping")

namespace Compilation

variable {environment : Environment} {options : Options} {failure : Failure} {given ast : Value}
  {wantsTree : Bool} {source file : String}

/-! ### The options for the compiler -/

theorem presentHelpers_error_iff :
    presentHelpers options = .error failure ↔
      ∃ present, options.compilerOptions.getText? "knownHelpers" = some present ∧
        (∀ entries, present ≠ .map entries) ∧ failure = .notAMap present := by
  unfold presentHelpers
  cases options.compilerOptions.getText? "knownHelpers" with
  | none => simp
  | some present =>
      cases present with
      | map entries => simp
      | _ => simp [Failure.notAMap, eq_comm]

/-- The options for the compiler can be put together, unless something that is no map stands in the
place of the helpers. -/
theorem compilerOptions_error_iff :
    compilerOptions options = .error failure ↔
      ∃ present, options.Clashes present ∧ failure = .notAMap present := by
  unfold compilerOptions Options.Clashes
  by_cases none : options.knownHelpersMap = []
  · simp [none, bind, Except.bind]
  · have clashes : (∃ present, (options.knownHelpersMap ≠ [] ∧
        options.compilerOptions.getText? "knownHelpers" = some present ∧
        ∀ entries, present ≠ .map entries) ∧ failure = .notAMap present) ↔
        presentHelpers options = .error failure := by
      rw [presentHelpers_error_iff]
      simp only [ne_eq, none, not_false_eq_true, true_and, and_assoc]
    rw [clashes]
    simp only [none, if_false, bind, Except.bind]
    cases presentHelpers options with
    | error other => simp
    | ok present => simp

/-! ### What escapes -/

theorem not_isOfCompiler_of_compilerOptions
    (refuses : compilerOptions options = .error failure) : ¬ failure.IsOfCompiler := by
  obtain ⟨present, _, rfl⟩ := compilerOptions_error_iff.mp refuses
  exact id

theorem textOf_escapes_iff
    (reports : ∀ failure, environment.compiler.Fails failure → failure.IsOfCompiler) :
    textOf environment options given ast = .error failure ∧ ¬ failure.IsOfCompiler ↔
      compilerOptions options = .error failure := by
  constructor
  · rintro ⟨fails, escapes⟩
    rcases textOf_fails fails with broken | refuses
    · exact absurd (reports failure broken) escapes
    · exact refuses
  · intro refuses
    rw [textOf, refuses]
    exact ⟨rfl, not_isOfCompiler_of_compilerOptions refuses⟩

theorem staged_escapes_iff (plain : options.processAst = none)
    (reports : ∀ failure, environment.compiler.Fails failure → failure.IsOfCompiler) :
    staged environment options wantsTree given = .error failure ∧ ¬ failure.IsOfCompiler ↔
      compilerOptions options = .error failure ∧
        (wantsTree = true → ∃ ast, environment.compiler.parse given = .ok ast) := by
  unfold staged treeOf
  simp only [plain, Option.isSome_none, Bool.or_false]
  cases wantsTree with
  | false =>
      simp only [Bool.false_eq_true, if_false, false_implies, and_true]
      exact textOf_escapes_iff reports
  | true =>
      simp only [if_true, true_implies]
      cases parsed : environment.compiler.parse given with
      | ok ast =>
          simp only [Except.bind, Except.ok.injEq, exists_eq', and_true]
          exact textOf_escapes_iff reports
      | error other =>
          simp only [Except.bind, Except.error.injEq, reduceCtorEq, exists_false, and_false,
            iff_false, not_and, Classical.not_not]
          rintro rfl
          exact reports _ (.parse given parsed)

theorem nameTemplate_isOfCompiler (file : String) (failure : Failure) :
    (nameTemplate file failure).IsOfCompiler ↔ failure.IsOfCompiler := by
  cases failure <;> exact Iff.rfl

theorem nameTemplate_of_escapes {file : String} (escapes : ¬ failure.IsOfCompiler) :
    nameTemplate file failure = failure := by
  cases failure with
  | template text path => exact absurd trivial escapes
  | _ => rfl

/-- What escapes is not renamed. -/
theorem mapError_escapes_iff {α : Type} {result : Except Failure α} (file : String) :
    result.mapError (nameTemplate file) = .error failure ∧ ¬ failure.IsOfCompiler ↔
      result = .error failure ∧ ¬ failure.IsOfCompiler := by
  cases result with
  | ok value =>
      change Except.ok value = .error failure ∧ _ ↔ _
      simp only [reduceCtorEq]
  | error other =>
      change Except.error (nameTemplate file other) = .error failure ∧ _ ↔ _
      simp only [Except.error.injEq]
      constructor
      · rintro ⟨rfl, escapes⟩
        rw [nameTemplate_isOfCompiler] at escapes
        exact ⟨(nameTemplate_of_escapes escapes).symm, by rwa [nameTemplate_of_escapes escapes]⟩
      · rintro ⟨rfl, escapes⟩
        exact ⟨nameTemplate_of_escapes escapes, escapes⟩

theorem outcome_escapes_iff (plain : options.processContent = none)
    (plainTree : options.processAst = none)
    (reports : ∀ failure, environment.compiler.Fails failure → failure.IsOfCompiler) :
    outcome environment options wantsTree source file = .error failure ∧ ¬ failure.IsOfCompiler ↔
      compilerOptions options = .error failure ∧
        (wantsTree = true → ∃ ast, environment.compiler.parse (.text source) = .ok ast) := by
  have handed : content environment options source file = .ok (.text source) := by
    unfold content
    rw [plain]
  refine Iff.trans ?_ ((mapError_escapes_iff file).trans (staged_escapes_iff plainTree reports))
  unfold outcome
  rw [handed]
  change ((staged environment options wantsTree (.text source)).mapError
    (nameTemplate file)).bind _ = .error failure ∧ _ ↔ _
  generalize (staged environment options wantsTree (.text source)).mapError
    (nameTemplate file) = named
  cases named <;> simp [Except.bind]

/-- A template without functions for its content and its tree, and a compiler that only fails by
failures of a compiler. The options for the compiler can be put together, except where there are
helpers to add to something that is no map. The template is compiled, or it fails by a failure of
the compiler, except where the options cannot be put together and the compiler has not refused the
template before it is asked with them. -/
theorem compile_escapes_iff (plain : options.processContent = none)
    (plainTree : options.processAst = none)
    (reports : ∀ failure, environment.compiler.Fails failure → failure.IsOfCompiler)
    (wantsTree : Bool) (source file : String) (events : List Event) :
    (∀ failure, compilerOptions options = .error failure ↔
      ∃ present, options.Clashes present ∧ failure = .notAMap present) ∧
    ∀ failure,
      ((compile environment options wantsTree source file).run events).1 = .error failure ∧
          ¬ failure.IsOfCompiler ↔
        ∃ present, options.Clashes present ∧ failure = .notAMap present ∧
          (wantsTree = true → ∃ ast, environment.compiler.parse (.text source) = .ok ast) := by
  refine ⟨fun failure => compilerOptions_error_iff, fun failure => ?_⟩
  rw [compile_yields, outcome_escapes_iff plain plainTree reports, compilerOptions_error_iff]
  constructor
  · rintro ⟨⟨present, clashes, same⟩, reached⟩
    exact ⟨present, clashes, same, reached⟩
  · rintro ⟨present, clashes, same, reached⟩
    exact ⟨⟨present, clashes, same⟩, reached⟩

/-- A compiler that refuses one source. -/
def refusing : Environment where
  call := fun _ _ => .ok .null
  compiler :=
    { available := .ok ()
      parse := fun source =>
        if source = .text "refuse" then .error (.template "refused" none) else .ok source
      precompile := fun source _ =>
        if source = .text "refuse" then .error (.template "refused" none) else .ok "compiled" }

theorem refusing_reports (failure : Failure) (fails : refusing.compiler.Fails failure) :
    failure.IsOfCompiler := by
  cases fails with
  | parse source refuses =>
      simp only [refusing] at refuses
      split at refuses
      · obtain rfl := Except.error.inj refuses
        trivial
      · simp at refuses
  | precompile source settings refuses =>
      simp only [refusing] at refuses
      split at refuses
      · obtain rfl := Except.error.inj refuses
        trivial
      · simp at refuses

/-- A task with a helper, and a number where the compiler looks for its helpers. -/
def numberTask : Entries :=
  [(.text "knownHelpers", .list [.text "x"]),
    (.text "compilerOptions", .map [(.text "knownHelpers", .int 7)])]

/-- The options of that task. -/
def numberOptions : Options :=
  { knownHelpers := .listed ["x"], compilerOptions := [(.text "knownHelpers", .int 7)],
    given := [.knownHelpers, .compilerOptions] }

theorem numberOptions_clash : numberOptions.Clashes (.int 7) :=
  ⟨by decide, by decide, by simp⟩

theorem compile_escapes_with_a_number :
    numberOptions.processContent = none ∧ numberOptions.processAst = none ∧
      (∀ failure, refusing.compiler.Fails failure → failure.IsOfCompiler) ∧
      ((compile refusing numberOptions true "hi" "t/a.hbs").run []).1 =
        .error (.notAMap (.int 7)) := by
  have plain : numberOptions.processContent = none := rfl
  have plainTree : numberOptions.processAst = none := rfl
  have escapes := (compile_escapes_iff plain plainTree refusing_reports true "hi" "t/a.hbs" []).2
    (.notAMap (.int 7))
  exact ⟨plain, plainTree, refusing_reports,
    (escapes.mpr ⟨.int 7, numberOptions_clash, rfl, fun _ => ⟨.text "hi", rfl⟩⟩).1⟩

/-- The task is accepted, and its templates fail by none of the compiler's failures. -/
theorem compile_fails_beyond_compiler :
    Options.ofValue [] (.map numberTask) = .ok numberOptions ∧
      (∀ failure, refusing.compiler.Fails failure → failure.IsOfCompiler) ∧
      compilerOptions numberOptions =
        .error (.mishap .wrongType "'int' object is not a mapping") ∧
      ((compile refusing numberOptions false "hi" "t/a.hbs").run []).1 =
        .error (.mishap .wrongType "'int' object is not a mapping") :=
  ⟨by rfl, refusing_reports, by rfl, by rfl⟩

end Compilation

end TemplateBundle
