import TemplateBundle.Proofs.Bundle.Declarations
import TemplateBundle.Proofs.Namespace.Outermost

/-!
Contract: what an AMD module returns for everything it declares.

Owns: the law that a returned namespace is what the registry takes the declarations so far to
share, and that it holds all that was assigned so far if that lies in one root.

Does not own: how the shared namespace is found in the registry (`Namespace.Outermost`).
-/

namespace TemplateBundle

open Namespace (bracketPath)
open Statement (targets)

/-- Each namespace that is returned as the shared one is found in a registry that holds the
declarations before it. -/
def Returning (fixed : List (List String)) (statements : List Statement) : Prop :=
  ∀ before text, before ++ [.returnShared text] <+: statements →
    text ≠ "" ∧ ∃ registry, text = registry.globalNamespace ∧
      Declaring (fixed ++ targets before) registry before

namespace Returning

variable {fixed : List (List String)} {statements more : List Statement}

theorem nil : Returning fixed [] := by
  intro before text isPrefix
  simp at isPrefix

theorem append (holds : Returning fixed statements)
    (returnsNone : ∀ text, .returnShared text ∉ more) : Returning fixed (statements ++ more) := by
  intro before text isPrefix
  rcases prefix_append_cases isPrefix with inside | ⟨earlier, _, inMore⟩
  · exact holds before text inside
  · exact absurd (inMore.subset (by simp)) (returnsNone text)

theorem returned_of_closing {options : Options} {registry : Namespace.Registry}
    {target : List String} {text : String}
    (member : .returnShared text ∈ Bundle.closing options registry target) :
    text = registry.globalNamespace ∧ text ≠ "" := by
  rcases Bundle.closing_cases member with same | ⟨same, some⟩ | same | same | same
  case inr.inl =>
      obtain rfl := Statement.returnShared.inj same
      exact ⟨rfl, some⟩
  all_goals simp at same

/-- The closings return what the registry takes its declarations to share. -/
theorem closing (holds : Returning fixed statements) {registry : Namespace.Registry}
    (declares : Declaring (fixed ++ targets statements) registry statements) (options : Options)
    (target : List String) :
    Returning fixed (statements ++ Bundle.closing options registry target) := by
  intro before text isPrefix
  rcases prefix_append_cases isPrefix with inside | ⟨earlier, rfl, inClosing⟩
  · exact holds before text inside
  · have member : .returnShared text ∈ Bundle.closing options registry target :=
      inClosing.subset (by simp)
    obtain ⟨shared, some⟩ := returned_of_closing member
    refine ⟨some, registry, shared, Bundle.silent_declaring ?_ declares⟩
    intro statement member
    exact Bundle.closing_isWrapper statement (inClosing.subset (List.mem_append_left _ member))

end Returning

namespace Bundle

variable {environment : Environment} {options : Options} {bundle after : Bundle}
  {template : Template} {statements : List Statement} {fixed : List (List String)}

theorem opening_returnsNone {name ast compiled : Value} {lines : List Statement}
    (opened : opening environment options name ast compiled = .ok lines) (text : String) :
    .returnShared text ∉ lines := by
  obtain ⟨dependencies, rfl⟩ := opening_ok opened
  simp

theorem preamble_returning {lines : List Statement}
    (succeeds : Assembling.effect (preamble environment) (start options) = (.ok lines, after)) :
    Returning fixed lines := by
  cases preamble_ok succeeds with
  | none _ => exact .nil
  | wrappers lines _ opened _ => exact Returning.nil.append (opening_returnsNone opened)
  | namespaced lines path target _ opened _ _ =>
      refine (Returning.nil.append (opening_returnsNone opened)).append fun text member => ?_
      obtain ⟨paths, _, same⟩ := missing_declares member
      simp at same

theorem additions_returnsNone (bundle : Bundle) {asked : Contribution}
    (contributes : asked.statement.isContribution = true) (text : String) :
    .returnShared text ∉ bundle.additions asked := by
  intro member
  rcases List.mem_append.mp member with declared | itself
  · obtain ⟨paths, _, same⟩ := missingSome_declares declared
    simp at same
  · rw [← List.mem_singleton.mp itself] at contributes
    simp [Statement.isContribution] at contributes

theorem assemble_returning {body : String} {ast : Value} {fragment : Fragment}
    (succeeds : Assembling.effect (assemble environment template body ast) bundle =
      (.ok fragment, after))
    (declares : Declaring (fixed ++ targets statements) bundle.registry statements)
    (holds : Returning fixed statements) :
    Returning fixed (statements ++ fragment.statements) := by
  obtain ⟨asked, lines, ends, asks, rfl, wraps, whole⟩ := assemble_ok succeeds
  have known := contribution_ok asks
  have declaresAdded := additions_declaring known.contributes known.target?_eq
    (silent_declaring (wrappers_wrap wraps).1 declares)
  rw [whole, ← List.append_assoc, ← List.append_assoc]
  rcases wrappers_ok wraps with ⟨_, rfl, rfl⟩ | ⟨_, opened, rfl⟩
  · rw [List.append_nil, List.append_nil]
    exact holds.append (additions_returnsNone bundle known.contributes)
  · have front := (holds.append (opening_returnsNone opened)).append
      (additions_returnsNone bundle known.contributes)
    exact front.closing declaresAdded _ _

theorem assembleAll_returning {templates : List (Template × Compiled)} {fragments : List Fragment}
    (succeeds : Assembling.effect (assembleAll environment templates) bundle =
      (.ok fragments, after))
    (declares : Declaring (fixed ++ targets statements) bundle.registry statements)
    (holds : Returning fixed statements) :
    Returning fixed (statements ++ fragments.flatMap Fragment.statements) := by
  rw [assembleAll_ok_iff] at succeeds
  induction succeeds generalizing statements with
  | done bundle => simpa using holds
  | next assembled _ inductionHypothesis =>
      rw [List.flatMap_cons, ← List.append_assoc]
      exact inductionHypothesis (assemble_declaring assembled declares)
        (assemble_returning assembled declares holds)

end Bundle

namespace Composition

variable {environment : Environment} {options : Options} {templates : List (Template × Compiled)}
  {composition : Composition}

theorem returning (composed : Bundle.compose environment options templates = .ok composition) :
    Returning options.fixedNamespace composition.statements := by
  obtain ⟨begun, begins, assembled⟩ := of_compose composed
  have declares := Bundle.preamble_declaring begins
  have front := Bundle.assembleAll_returning assembled declares (Bundle.preamble_returning begins)
  unfold statements Bundle.ending
  cases composition.bundle.options.wrapScope with
  | output => exact front.closing (Bundle.assembleAll_declaring assembled declares) _ _
  | fragment => simpa using front

/-- What is returned is the root of all namespaces so far, if they have one root, and all that is
assigned so far lies in it. -/
theorem returns_root (composed : Bundle.compose environment options templates = .ok composition)
    {before : List Statement} {text root : String}
    (isPrefix : before ++ [.returnShared text] <+: composition.statements)
    (oneRoot : ∀ target ∈ options.fixedNamespace ++ targets before, target.head? = some root)
    (whole : ¬ Namespace.IsCut root) :
    text = bracketPath [root] ∧ ∀ target ∈ targets before, [root] <+: target := by
  obtain ⟨some, registry, shared, declares⟩ := returning composed before text isPrefix
  constructor
  · rw [shared]
    cases all : registry.declared with
    | nil =>
        rw [shared, Namespace.Registry.globalNamespace, all] at some
        exact absurd rfl some
    | cons first rest =>
        obtain ⟨segment, below, rfl, reason⟩ := declares.first_root all
        have begins := oneRoot (segment :: below) reason
        rw [List.head?_cons, Option.some.injEq] at begins
        rw [begins] at all
        exact Namespace.Registry.globalNamespace_root all whole
  · intro target member
    have begins := oneRoot target (List.mem_append_right _ member)
    cases target with
    | nil => simp at begins
    | cons first rest =>
        rw [List.head?_cons, Option.some.injEq] at begins
        exact ⟨rest, by rw [begins]; rfl⟩

end Composition

end TemplateBundle
