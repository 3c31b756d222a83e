import TemplateBundle.Proofs.Bundle.Simulation

/-!
Contract: a bundle with a computed dependency that is always the same, beside one that names this
dependency.

Owns: the two bundles, and that the preamble, the fragment of every template and the ending are
the same in both.

A function is given the syntax tree of a template. It does not look at it, so that one bundle may
be given a tree where the other has none.
-/

namespace TemplateBundle

/-- The options with another rule for dependencies. -/
def Options.depending (options : Options) (rule : DependencyRule String) : Options :=
  { options with amd := rule }

@[simp] theorem Options.depending_wrapScope (options : Options) (rule : DependencyRule String) :
    (options.depending rule).wrapScope = options.wrapScope := rfl

/-- The bundle with another rule for dependencies. -/
def Bundle.depending (bundle : Bundle) (rule : DependencyRule String) : Bundle :=
  { bundle with options := bundle.options.depending rule }

/-- A function answers the same dependency for every template. -/
structure Environment.AlwaysDepends (environment : Environment) (function : Callable)
    (dependency : String) : Prop where
  answers : ∀ name ast compiled,
    environment.call function [name, ast, compiled] = .ok (.text dependency)
  filled : dependency ≠ ""

/-- Two bundles with some options that are the same, but for a dependency that one computes and
the other names. -/
inductive Bundle.Names (options : Options) (function : Callable) (dependency : String) :
    Bundle → Bundle → Prop
  | same (bundle : Bundle) : bundle.options = options →
      Names options function dependency
        (bundle.depending (.computed function)) (bundle.depending (.named dependency))

namespace Bundle.Names

variable {options : Options} {function : Callable} {dependency : String} {bundle twin : Bundle}

theorem count (names : Names options function dependency bundle twin) :
    Names options function dependency bundle.count twin.count := by
  cases names with
  | same bundle kept => exact .same bundle.count kept

theorem skip (names : Names options function dependency bundle twin) (relative : String) :
    Names options function dependency (bundle.skip relative) (twin.skip relative) := by
  cases names with
  | same bundle kept => exact .same (bundle.skip relative) kept

theorem report (names : Names options function dependency bundle twin) :
    bundle.report = twin.report := by
  cases names with
  | same bundle kept => rfl

theorem ending (names : Names options function dependency bundle twin) :
    bundle.ending = twin.ending := by
  cases names with
  | same bundle kept => rfl

end Bundle.Names

namespace Bundle

open Assembling

variable {environment : Environment} {options : Options} {function : Callable}
  {dependency : String}

theorem opening_constant (always : environment.AlwaysDepends function dependency)
    (options : Options) (name ast other compiled : Value) :
    opening environment (options.depending (.computed function)) name ast compiled =
      opening environment (options.depending (.named dependency)) name other compiled := by
  have dependencies : DependencyRule.dependencies id environment name ast compiled
      (.computed function) = .ok [dependency] := by
    simp [DependencyRule.dependencies, always.answers, always.filled]
  unfold opening
  change (do
    let amd ← do
      let found ← DependencyRule.dependencies id environment name ast compiled (.computed function)
      .ok [Statement.amdOpen found options.runtime]
    _ : Except Failure (List Statement)) = _
  rw [dependencies]
  rfl

theorem resolve_matches (answer : Value) (file : String) :
    Matches (Names options function dependency) Eq (resolve answer file) (resolve answer file) := by
  intro bundle twin same
  cases same with
  | same bundle kept =>
      rw [resolve_effect, resolve_effect]
      dsimp only [Bundle.depending]
      rcases bundle.registry.resolveAnswer answer file with ⟨fault | resolution, registry⟩
      · exact .error (.same bundle kept)
      · exact .ok rfl (.same { bundle with registry, target := resolution.target } kept)

theorem resolveBy_matches (environment : Environment) (rule : NamespaceRule) (file : String) :
    Matches (Names options function dependency) Eq (resolveBy environment rule file)
      (resolveBy environment rule file) := by
  cases rule with
  | off =>
      intro bundle twin same
      cases same with
      | same bundle kept => exact .ok rfl (.same { bundle with target := [] } kept)
  | fixed path => exact resolve_matches (.text path) file
  | computed function => exact .andThen (.pass _) fun answer => resolve_matches answer file

/-- The preambles are the same. -/
theorem preamble_matches (always : environment.AlwaysDepends function dependency) :
    Matches (Names options function dependency) Eq (preamble environment)
      (preamble environment) := by
  refine .get fun bundle twin same => ?_
  cases same with
  | same bundle kept =>
      dsimp only [Bundle.depending, Options.depending]
      cases bundle.options.wrapScope with
      | fragment => exact .pure rfl
      | output =>
          dsimp only
          refine .andThen ?_ fun lines => ?_
          · change Matches _ Eq (pass (opening environment
              (bundle.options.depending (.computed function)) _ _ _)) _
            rw [opening_constant always bundle.options _ .null .null]
            exact .pass _
          · cases bundle.options.namespaceRule with
            | fixed path => exact .andThen (resolve_matches _ _) fun _ => .pure rfl
            | off => exact .pure rfl
            | computed rule => exact .pure rfl

theorem core_matches (environment : Environment) (template : Template) (name : Value)
    (body : String) :
    Matches (Names options function dependency) Eq (core environment template name body)
      (core environment template name body) := by
  have inside (rule : NamespaceRule) (make : Namespace.Resolution → Core) :
      Matches (Names options function dependency) Eq
        (do
          let resolution ← resolveBy environment rule template.file
          pass (checkName name)
          pure (make resolution))
        (do
          let resolution ← resolveBy environment rule template.file
          pass (checkName name)
          pure (make resolution)) :=
    .andThen (resolveBy_matches environment rule template.file) fun _ =>
      .andThen (.pass _) fun _ => .pure rfl
  refine .get fun bundle twin same => ?_
  cases same with
  | same bundle kept =>
      dsimp only [Bundle.depending, Options.depending]
      by_cases isPartial : template.isPartial = true
      · rw [if_pos isPartial, if_pos isPartial]
        by_cases uses : bundle.options.partialsUseNamespace = true
        · rw [if_pos uses]
          exact inside _ _
        · rw [if_neg uses]
          exact .andThen (.pass _) fun _ => .pure rfl
      · rw [if_neg isPartial, if_neg isPartial]
        change Matches _ _ (if bundle.options.usesNamespace = true then _ else _)
          (if bundle.options.usesNamespace = true then _ else _)
        by_cases uses : bundle.options.usesNamespace = true
        · rw [if_pos uses, if_pos uses]
          exact inside _ _
        · rw [if_neg uses, if_neg uses]
          exact .pure rfl

/-- The fragments of a template are the same, whatever syntax tree there is. -/
theorem assemble_matches (always : environment.AlwaysDepends function dependency)
    (template : Template) (body : String) (ast other : Value) :
    Matches (Names options function dependency) Eq (assemble environment template body ast)
      (assemble environment template body other) := by
  refine .get fun bundle twin same => ?_
  cases same with
  | same bundle kept =>
      refine .andThen (.pass _) fun name => ?_
      refine .andThen (core_matches environment template name body) fun core => ?_
      dsimp only [Bundle.depending, Options.depending]
      cases bundle.options.wrapScope with
      | output => exact .pure rfl
      | fragment =>
          refine .andThen ?_ fun lines => .get fun last final same => ?_
          · change Matches _ Eq (pass (opening environment
              (bundle.options.depending (.computed function)) _ _ _)) _
            rw [opening_constant always bundle.options _ _ other]
            exact .pass _
          · cases same with
            | same last _ => exact .pure rfl

end Bundle

end TemplateBundle
