import TemplateBundle.Proofs.Bundle.Assembling
import TemplateBundle.Proofs.Bundle.Statements
import TemplateBundle.Proofs.Namespace.Declarations

/-!
Contract: the parts that a bundle is assembled from.

Owns: the namespace that a rule names, the bundle after it was entered, the kind of the
statements that open and close wrappers, and everything that a preamble which succeeds can have
done.

Does not own: the fragments (`Proofs.Bundle.Contribution`).
-/

namespace TemplateBundle

/-- The segments of a namespace path, or the failure of a task. -/
def Namespace.segmentsOrFailure (path : String) : Except Failure (List String) :=
  match Namespace.split path with
  | .ok target => .ok target
  | .error fault => .error (.config fault)

/-- The segments that a rule names for a file. No namespace has none. -/
def NamespaceRule.target (environment : Environment) (file : String) :
    NamespaceRule → Except Failure (List String)
  | .off => .ok []
  | .fixed path => Namespace.segmentsOrFailure path
  | .computed function =>
      match environment.call function [.text file] with
      | .ok (.text path) => Namespace.segmentsOrFailure path
      | .ok answer => .error (.config (.namespaceAnswer answer.kindName file))
      | .error failure => .error failure

/-- A namespace that is not switched off has segments, whatever rule names it. -/
theorem NamespaceRule.target_ne_nil {environment : Environment} {rule : NamespaceRule}
    {file : String} {target : List String} (asks : rule ≠ .off)
    (names : rule.target environment file = .ok target) : target ≠ [] := by
  have ofSegments {path : String} (segments : Namespace.segmentsOrFailure path = .ok target) :
      target ≠ [] := by
    unfold Namespace.segmentsOrFailure at segments
    cases isPath : Namespace.split path with
    | error fault => simp [isPath] at segments
    | ok found =>
        simp only [isPath, Except.ok.injEq] at segments
        exact segments ▸ Namespace.split_ne_nil isPath
  cases rule with
  | off => exact absurd rfl asks
  | fixed path => exact ofSegments names
  | computed function =>
      simp only [NamespaceRule.target] at names
      split at names
      · exact ofSegments names
      · simp at names
      · simp at names

theorem DependencyRule.dependencies_fixed {environment : Environment}
    {rule : DependencyRule String} (fixed : ∀ function, rule ≠ .computed function)
    (name ast compiled : Value) :
    rule.dependencies id environment name ast compiled = .ok (rule.fixedDependencies id) := by
  cases rule with
  | computed function => exact absurd rfl (fixed function)
  | _ => rfl

/-- The namespace that a statement assigns into. -/
def Statement.target? : Statement → Option (List String)
  | .registerIn _ _ target _ => some target
  | .assign target _ _ => some target
  | _ => none

namespace Bundle

open Assembling

variable {environment : Environment} {bundle after : Bundle}

/-- The bundle after a namespace is entered: what was missing of it is declared. -/
def entering (bundle : Bundle) (target : List String) : Bundle :=
  { bundle with registry := (bundle.registry.declareTo target).2, target }

/-- The statement that declares what is missing of a namespace. -/
def missing (bundle : Bundle) (target : List String) : List Statement :=
  declarations (bundle.registry.declareTo target).1

theorem missing_declares {statement : Statement} {target : List String}
    (member : statement ∈ bundle.missing target) :
    ∃ paths, paths ≠ [] ∧ statement = .declare paths := by
  unfold missing declarations at member
  split at member
  · simp at member
  · rename_i some
    exact ⟨_, some, List.mem_singleton.mp member⟩

/-- The openings are those of the wrappers that are asked for, and then the node shim. -/
theorem opening_ok {options : Options} {name ast compiled : Value} {lines : List Statement}
    (opened : opening environment options name ast compiled = .ok lines) :
    ∃ dependencies, lines =
      (if options.commonjs then [.commonjsOpen options.runtime] else []) ++
      (if options.amd.isOn then [.amdOpen dependencies options.runtime] else []) ++
      if hasNodeShim options then [.nodeGlobal, .nodeRuntime options.runtime] else [] := by
  unfold opening at opened
  dsimp only at opened
  by_cases isOn : options.amd.isOn = true
  · rw [if_pos isOn] at opened
    cases listed : options.amd.dependencies id environment name ast compiled with
    | error failure => simp [listed, bind, Except.bind] at opened
    | ok dependencies =>
        simp only [listed, bind, Except.bind, Except.ok.injEq] at opened
        exact ⟨dependencies, by rw [if_pos isOn, ← opened]⟩
  · rw [if_neg isOn] at opened
    simp only [bind, Except.bind, Except.ok.injEq] at opened
    exact ⟨[], by rw [if_neg isOn, ← opened]⟩

/-- Where no function names the dependencies, the openings depend on the options alone. -/
theorem opening_fixed {options : Options}
    (notComputed : ∀ function, options.amd ≠ .computed function) (environment : Environment)
    (name ast compiled : Value) :
    opening environment options name ast compiled = .ok
      ((if options.commonjs then [.commonjsOpen options.runtime] else []) ++
      (if options.amd.isOn then
        [.amdOpen (options.amd.fixedDependencies id) options.runtime] else []) ++
      if hasNodeShim options then [.nodeGlobal, .nodeRuntime options.runtime] else []) := by
  unfold opening
  dsimp only
  rw [DependencyRule.dependencies_fixed notComputed]
  cases options.amd.isOn <;> rfl

theorem opening_isWrapper {options : Options} {name ast compiled : Value}
    {lines : List Statement} (opened : opening environment options name ast compiled = .ok lines) :
    ∀ statement ∈ lines, statement.isWrapper = true := by
  obtain ⟨dependencies, rfl⟩ := opening_ok opened
  intro statement member
  rw [List.mem_append, List.mem_append] at member
  rcases member with (inCommonjs | inAmd) | inNode
  · rw [List.mem_ite_nil_right, List.mem_singleton] at inCommonjs
    rw [inCommonjs.2]
    rfl
  · rw [List.mem_ite_nil_right, List.mem_singleton] at inAmd
    rw [inAmd.2]
    rfl
  · rw [List.mem_ite_nil_right] at inNode
    simp only [List.mem_cons, List.not_mem_nil, or_false] at inNode
    rcases inNode with ⟨_, rfl | rfl⟩
    · rfl
    · rfl

/-- Each closing is one of five, of which the returned namespace is never empty. -/
theorem closing_cases {options : Options} {registry : Namespace.Registry} {target : List String}
    {statement : Statement} (member : statement ∈ closing options registry target) :
    statement = .nodeExport target ∨
      (statement = .returnShared registry.globalNamespace ∧ registry.globalNamespace ≠ "") ∨
      statement = .amdClose ∨ statement = .returnLast target ∨ statement = .commonjsClose := by
  simp only [closing, List.mem_append, List.mem_ite_nil_right, List.mem_singleton] at member
  obtain (⟨_, same⟩ | ⟨_, ⟨⟨_, some⟩, same⟩ | same⟩) | ⟨_, ⟨_, same⟩ | same⟩ := member
  · exact .inl same
  · exact .inr (.inl ⟨same, some⟩)
  · exact .inr (.inr (.inl same))
  · exact .inr (.inr (.inr (.inl same)))
  · exact .inr (.inr (.inr (.inr same)))

theorem closing_isWrapper {options : Options} {registry : Namespace.Registry}
    {target : List String} :
    ∀ statement ∈ closing options registry target, statement.isWrapper = true := by
  intro statement member
  obtain rfl | ⟨rfl, _⟩ | rfl | rfl | rfl := closing_cases member <;> rfl

theorem ending_isWrapper (bundle : Bundle) :
    ∀ statement ∈ bundle.ending, statement.isWrapper = true := by
  intro statement member
  unfold ending at member
  split at member
  · simp at member
  · exact closing_isWrapper statement member

private theorem resolve_text_effect (path file : String) (bundle : Bundle) :
    Assembling.effect (resolve (.text path) file) bundle =
      match Namespace.segmentsOrFailure path with
      | .ok target => (.ok (bundle.registry.declareTo target).1, bundle.entering target)
      | .error failure => (.error failure, bundle) := by
  rw [resolve_effect]
  unfold Namespace.Registry.resolveAnswer Namespace.segmentsOrFailure
  dsimp only
  cases Namespace.split path with
  | error fault => rfl
  | ok target => rfl

/-- Resolving a namespace by a rule enters what the rule names, or changes nothing. -/
theorem resolveBy_effect (environment : Environment) (rule : NamespaceRule) (file : String)
    (bundle : Bundle) :
    Assembling.effect (resolveBy environment rule file) bundle =
      match rule.target environment file with
      | .ok target => (.ok (bundle.registry.declareTo target).1, bundle.entering target)
      | .error failure => (.error failure, bundle) := by
  cases rule with
  | off => rfl
  | fixed path => exact resolve_text_effect path file bundle
  | computed function =>
      unfold resolveBy NamespaceRule.target
      rw [effect_bind, effect_pass]
      dsimp only
      cases environment.call function [.text file] with
      | error failure => rfl
      | ok answer =>
          cases answer with
          | text path => exact resolve_text_effect path file bundle
          | _ => rfl

/-- The preamble of a bundle: nothing where each fragment has wrappers, else the openings and
the declaration of a fixed namespace. -/
theorem preamble_effect (environment : Environment) (bundle : Bundle) :
    Assembling.effect (preamble environment) bundle =
      match bundle.options.wrapScope with
      | .fragment => (.ok [], bundle)
      | .output =>
          match opening environment bundle.options (.text bundle.options.outputFile) .null .null with
          | .error failure => (.error failure, bundle)
          | .ok lines =>
              match bundle.options.namespaceRule with
              | .fixed path =>
                  match Namespace.segmentsOrFailure path with
                  | .error failure => (.error failure, bundle)
                  | .ok target => (.ok (lines ++ bundle.missing target), bundle.entering target)
              | _ => (.ok lines, bundle) := by
  unfold preamble
  rw [effect_bind, effect_get]
  dsimp only
  cases bundle.options.wrapScope with
  | fragment => rfl
  | output =>
      dsimp only
      rw [effect_bind, effect_pass]
      cases opening environment bundle.options (.text bundle.options.outputFile) .null .null with
      | error failure => rfl
      | ok lines =>
          cases bundle.options.namespaceRule with
          | off => rfl
          | computed function => rfl
          | fixed path =>
              dsimp only
              rw [effect_bind, resolve_text_effect]
              cases Namespace.segmentsOrFailure path <;> rfl

/-- What is known of the preamble of a bundle: openings, and the declaration of a fixed
namespace, both for a wrapped output alone. -/
inductive Preamble (environment : Environment) (bundle : Bundle) : List Statement → Bundle → Prop
  | none : bundle.options.wrapScope = .fragment → Preamble environment bundle [] bundle
  | wrappers (lines : List Statement) : bundle.options.wrapScope = .output →
      opening environment bundle.options (.text bundle.options.outputFile) .null .null =
        .ok lines →
      (∀ path, bundle.options.namespaceRule ≠ .fixed path) →
      Preamble environment bundle lines bundle
  | namespaced (lines : List Statement) (path : String) (target : List String) :
      bundle.options.wrapScope = .output →
      opening environment bundle.options (.text bundle.options.outputFile) .null .null =
        .ok lines →
      bundle.options.namespaceRule = .fixed path → Namespace.split path = .ok target →
      Preamble environment bundle (lines ++ bundle.missing target) (bundle.entering target)

theorem preamble_ok {lines : List Statement}
    (succeeds : Assembling.effect (preamble environment) bundle = (.ok lines, after)) :
    Preamble environment bundle lines after := by
  rw [preamble_effect] at succeeds
  cases scope : bundle.options.wrapScope with
  | fragment =>
      simp only [scope, Prod.mk.injEq, Except.ok.injEq] at succeeds
      obtain ⟨rfl, rfl⟩ := succeeds
      exact .none scope
  | output =>
      rw [scope] at succeeds
      dsimp only at succeeds
      cases opened : opening environment bundle.options (.text bundle.options.outputFile) .null
          .null with
      | error failure => simp [opened] at succeeds
      | ok openings =>
          rw [opened] at succeeds
          dsimp only at succeeds
          cases rule : bundle.options.namespaceRule with
          | fixed path =>
              rw [rule] at succeeds
              dsimp only at succeeds
              cases splits : Namespace.split path with
              | error fault => simp [Namespace.segmentsOrFailure, splits] at succeeds
              | ok target =>
                  simp only [Namespace.segmentsOrFailure, splits, Prod.mk.injEq,
                    Except.ok.injEq] at succeeds
                  obtain ⟨rfl, rfl⟩ := succeeds
                  exact .namespaced openings path target scope opened rule splits
          | off =>
              simp only [rule, Prod.mk.injEq, Except.ok.injEq] at succeeds
              obtain ⟨rfl, rfl⟩ := succeeds
              exact .wrappers openings scope opened (by simp [rule])
          | computed function =>
              simp only [rule, Prod.mk.injEq, Except.ok.injEq] at succeeds
              obtain ⟨rfl, rfl⟩ := succeeds
              exact .wrappers openings scope opened (by simp [rule])

end Bundle

end TemplateBundle
