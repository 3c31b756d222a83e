import TemplateBundle.Proofs.Bundle.Progress

/-!
Contract: which namespaces a bundle declares, and where.

Owns: the paths that statements declare, the law of well declared statements (each path once,
after its parent, before any use, and for a reason), the invariant that ties the registry of a
bundle to the statements written so far, and that every bundle is well declared.

The invariant is extended at the end of the statements, piece by piece: by silent statements, by
the declarations for a namespace that is entered, and by a statement that assigns into it.
-/

namespace TemplateBundle

open Namespace (bracketPath pathsTo)

namespace Statement

/-- The paths that a statement declares. -/
def declares : Statement → List (List String)
  | .declare paths => paths
  | _ => []

/-- The paths that some statements declare, in order. -/
def declared (statements : List Statement) : List (List String) := statements.flatMap declares

/-- The statement neither declares nor assigns into a namespace. -/
def IsSilent (statement : Statement) : Prop :=
  statement.declares = [] ∧ statement.target? = none

/-- Namespaces are declared as they should be: each path at most once, before every assignment
into it or below it, after its parent, and only on the way to a fixed namespace or to one that
is assigned into. -/
structure WellDeclared (fixed : List (List String)) (statements : List Statement) : Prop where
  once : ((declared statements).map bracketPath).Nodup
  beforeUse : ∀ before statement target, before ++ [statement] <+: statements →
    statement.target? = some target → ∀ path, path ≠ [] → path <+: target →
      bracketPath path ∈ (declared before).map bracketPath
  afterParent : ∀ before path, before ++ [path] <+: declared statements → path.dropLast ≠ [] →
    bracketPath path.dropLast ∈ before.map bracketPath
  needed : ∀ path ∈ declared statements, (∃ target ∈ fixed, path <+: target) ∨
    ∃ statement ∈ statements, ∃ target, statement.target? = some target ∧ path <+: target

theorem declared_append (first second : List Statement) :
    declared (first ++ second) = declared first ++ declared second := List.flatMap_append

theorem declared_silent {statements : List Statement}
    (silent : ∀ statement ∈ statements, statement.IsSilent) : declared statements = [] :=
  List.flatMap_eq_nil_iff.mpr fun statement member => (silent statement member).1

theorem silent_of_isWrapper {statement : Statement} (wraps : statement.isWrapper = true) :
    statement.IsSilent := by
  cases statement <;> simp_all [isWrapper, IsSilent, declares, target?]

theorem declares_of_isContribution {statement : Statement}
    (contributes : statement.isContribution = true) : statement.declares = [] := by
  cases statement <;> simp_all [isContribution, declares]

end Statement

open Statement (declared)

theorem Bundle.declared_declarations (resolution : Namespace.Resolution) :
    declared (declarations resolution) = resolution.fresh := by
  unfold declarations
  by_cases none : resolution.fresh = []
  · rw [if_pos none, none]
    rfl
  · rw [if_neg none]
    simp [declared, Statement.declares]

/-- What declares a namespace declares what is lacking of it. -/
theorem Bundle.declared_missing (bundle : Bundle) (target : List String) :
    declared (bundle.missing target) = bundle.registry.lacking target := by
  unfold Bundle.missing
  rw [Bundle.declared_declarations, Namespace.Registry.declareTo_eq]

/-! ### The invariant -/

/-- The registry holds what the statements declare, and every statement so far stands where it
may. Each path is declared on the way to one of the `reasons`. -/
structure Declaring (reasons : List (List String)) (registry : Namespace.Registry)
    (statements : List Statement) : Prop where
  registered : registry.declared = (declared statements).map bracketPath
  once : registry.declared.Nodup
  beforeUse : ∀ before statement target, before ++ [statement] <+: statements →
    statement.target? = some target →
      ∀ path ∈ pathsTo target, bracketPath path ∈ (declared before).map bracketPath
  afterParent : ∀ before path, before ++ [path] <+: declared statements → path.dropLast ≠ [] →
    bracketPath path.dropLast ∈ before.map bracketPath
  needed : ∀ path ∈ declared statements, path ≠ [] ∧ ∃ target ∈ reasons, path <+: target

theorem prefix_append_cases {α : Type} {before first second : List α} {last : α}
    (isPrefix : before ++ [last] <+: first ++ second) :
    before ++ [last] <+: first ∨
      ∃ more, before = first ++ more ∧ more ++ [last] <+: second := by
  obtain ⟨rest, same⟩ := isPrefix
  rcases List.append_eq_append_iff.mp same with ⟨more, inFirst, _⟩ | ⟨more, beyond, inSecond⟩
  · exact .inl ⟨more, inFirst.symm⟩
  · rcases List.eq_nil_or_concat more with rfl | ⟨earlier, final, rfl⟩
    · exact .inl ⟨[], by simpa using beyond⟩
    · rw [List.concat_eq_append, ← List.append_assoc] at beyond
      rw [List.concat_eq_append] at inSecond
      obtain ⟨sameBefore, sameLast⟩ := List.append_inj' beyond rfl
      rw [List.singleton_inj.mp sameLast]
      exact .inr ⟨earlier, sameBefore, rest, inSecond.symm⟩

namespace Declaring

variable {reasons : List (List String)} {registry : Namespace.Registry}
  {statements : List Statement}

theorem start : Declaring [] .empty [] where
  registered := rfl
  once := List.nodup_nil
  beforeUse := by
    intro before statement target isPrefix
    simp at isPrefix
  afterParent := by
    intro before path isPrefix
    simp [declared] at isPrefix
  needed := by
    intro path member
    simp [declared] at member

theorem weaken (holds : Declaring reasons registry statements) {more : List (List String)}
    (included : ∀ target ∈ reasons, target ∈ more) : Declaring more registry statements where
  registered := holds.registered
  once := holds.once
  beforeUse := holds.beforeUse
  afterParent := holds.afterParent
  needed := by
    intro path member
    obtain ⟨notEmpty, target, reason, isPrefix⟩ := holds.needed path member
    exact ⟨notEmpty, target, included target reason, isPrefix⟩

/-- Silent statements change nothing. -/
theorem silent (holds : Declaring reasons registry statements) {more : List Statement}
    (silent : ∀ statement ∈ more, statement.IsSilent) :
    Declaring reasons registry (statements ++ more) := by
  have same : declared (statements ++ more) = declared statements := by
    rw [Statement.declared_append, Statement.declared_silent silent, List.append_nil]
  constructor
  · rw [same]
    exact holds.registered
  · exact holds.once
  · intro before statement target isPrefix uses
    rcases prefix_append_cases isPrefix with inside | ⟨earlier, _, inMore⟩
    · exact holds.beforeUse before statement target inside uses
    · have member : statement ∈ more := inMore.subset (by simp)
      rw [(silent statement member).2] at uses
      simp at uses
  · rw [same]
    exact holds.afterParent
  · rw [same]
    exact holds.needed

/-- A statement may assign into a namespace whose paths are all declared. -/
theorem use (holds : Declaring reasons registry statements) {statement : Statement}
    {target : List String} (declaresNone : statement.declares = [])
    (uses : statement.target? = some target)
    (ready : ∀ path ∈ pathsTo target, bracketPath path ∈ registry.declared) :
    Declaring reasons registry (statements ++ [statement]) := by
  have same : declared (statements ++ [statement]) = declared statements := by
    rw [Statement.declared_append]
    simp [declared, declaresNone]
  constructor
  · rw [same]
    exact holds.registered
  · exact holds.once
  · intro before other otherTarget isPrefix otherUses
    rcases List.prefix_concat_iff.mp isPrefix with whole | inside
    · obtain ⟨rfl, sameLast⟩ := List.append_inj' whole rfl
      obtain rfl := List.singleton_inj.mp sameLast
      obtain rfl := Option.some.inj (uses.symm.trans otherUses)
      rw [← holds.registered]
      exact ready
    · exact holds.beforeUse before other otherTarget inside otherUses
  · rw [same]
    exact holds.afterParent
  · rw [same]
    exact holds.needed

private theorem lacking_pairwise (registry : Namespace.Registry) (target : List String) :
    (registry.lacking target).Pairwise fun first second => first.length < second.length :=
  (Namespace.pathsTo_pairwise target).filter _

/-- The parent of a path that is lacking is declared, or it is lacking too and comes first. -/
private theorem parent_of_lacking {target path : List String} {earlier : List (List String)}
    (isPrefix : earlier ++ [path] <+: registry.lacking target) (some : path.dropLast ≠ []) :
    bracketPath path.dropLast ∈ registry.declared ∨ path.dropLast ∈ earlier := by
  have member : path ∈ registry.lacking target := isPrefix.subset (by simp)
  obtain ⟨notEmpty, toTarget⟩ := Namespace.mem_pathsTo.mp (List.mem_filter.mp member).1
  have parent : path.dropLast ∈ pathsTo target :=
    Namespace.mem_pathsTo.mpr ⟨some, (List.dropLast_prefix path).trans toTarget⟩
  rcases Namespace.Registry.declared_or_lacking registry parent with
    present | lacking
  · exact .inl present
  · obtain ⟨rest, whole⟩ := isPrefix
    have sorted := lacking_pairwise registry target
    have shorter : path.dropLast.length < path.length := by
      rw [List.length_dropLast]
      have := List.length_pos_iff.mpr notEmpty
      omega
    rw [← whole] at lacking sorted
    rw [List.append_assoc, List.mem_append, List.singleton_append, List.mem_cons] at lacking
    rw [List.append_assoc, List.pairwise_append] at sorted
    rcases lacking with before | itself | later
    · exact .inr before
    · rw [itself] at shorter
      exact absurd shorter (Nat.lt_irrefl _)
    · have longer := (List.pairwise_cons.mp sorted.2.1).1 _ later
      omega

/-- The statement for a namespace that is entered declares what is lacking of it. -/
theorem enter (holds : Declaring reasons registry statements) (target : List String) :
    Declaring (reasons ++ [target]) (registry.declareTo target).2
      (statements ++ Bundle.declarations (registry.declareTo target).1) := by
  rw [Namespace.Registry.declareTo_eq]
  have declares := Bundle.declared_declarations ⟨target, registry.lacking target⟩
  have whole : declared (statements ++ Bundle.declarations ⟨target, registry.lacking target⟩) =
      declared statements ++ registry.lacking target := by
    rw [Statement.declared_append, declares]
  constructor
  · rw [whole, List.map_append, holds.registered]
  · rw [List.nodup_append]
    refine ⟨holds.once, registry.lacking_distinct target, ?_⟩
    rintro text present other lacking rfl
    obtain ⟨path, member, rfl⟩ := List.mem_map.mp lacking
    exact Namespace.Registry.not_declared_of_lacking member present
  · intro before statement otherTarget isPrefix uses
    rcases prefix_append_cases isPrefix with inside | ⟨earlier, _, inMore⟩
    · exact holds.beforeUse before statement otherTarget inside uses
    · have member : statement ∈ Bundle.declarations ⟨target, registry.lacking target⟩ :=
        inMore.subset (by simp)
      unfold Bundle.declarations at member
      split at member
      · simp at member
      · rw [List.mem_singleton.mp member] at uses
        simp [Statement.target?] at uses
  · rw [whole]
    intro before path isPrefix some
    rcases prefix_append_cases isPrefix with inside | ⟨earlier, rfl, inLacking⟩
    · exact holds.afterParent before path inside some
    · rw [List.map_append, List.mem_append, ← holds.registered]
      rcases parent_of_lacking inLacking some with present | before
      · exact .inl present
      · exact .inr (List.mem_map_of_mem before)
  · rw [whole]
    intro path member
    rcases List.mem_append.mp member with inside | lacking
    · obtain ⟨notEmpty, other, reason, isPrefix⟩ := holds.needed path inside
      exact ⟨notEmpty, other, List.mem_append_left _ reason, isPrefix⟩
    · obtain ⟨notEmpty, toTarget⟩ := Namespace.mem_pathsTo.mp (List.mem_filter.mp lacking).1
      exact ⟨notEmpty, target, by simp, toTarget⟩

/-- After a namespace is entered all paths to it are declared. -/
theorem ready_of_enter (registry : Namespace.Registry) (target : List String) :
    ∀ path ∈ pathsTo target, bracketPath path ∈ (registry.declareTo target).2.declared := by
  intro path member
  rw [Namespace.Registry.declareTo_eq]
  rcases Namespace.Registry.declared_or_lacking registry member with
    present | lacking
  · exact List.mem_append_left _ present
  · exact List.mem_append_right _ (List.mem_map_of_mem lacking)

/-- What is declared first is the root of a namespace that is one of the reasons. -/
theorem first_root (holds : Declaring reasons registry statements) {first : String}
    {rest : List String} (begins : registry.declared = first :: rest) :
    ∃ root below, first = bracketPath [root] ∧ root :: below ∈ reasons := by
  have registered := holds.registered
  rw [begins] at registered
  obtain ⟨path, others, all, rfl, _⟩ := List.map_eq_cons_iff.mp registered.symm
  -- Nothing can be declared before the parent of the first path: it has none.
  have noParent : path.dropLast = [] := by
    apply Classical.byContradiction
    intro parent
    have earlier := holds.afterParent [] path (by rw [all]; exact ⟨others, rfl⟩) parent
    simp at earlier
  obtain ⟨notEmpty, target, reason, below, rfl⟩ := holds.needed path (by simp [all])
  obtain ⟨root, rfl⟩ : ∃ root, path = [root] := by
    have split := List.dropLast_concat_getLast notEmpty
    rw [noParent] at split
    exact ⟨_, split.symm⟩
  exact ⟨root, below, rfl, reason⟩

end Declaring

/-! ### Bundles -/

/-- The namespace that is the same for all files, if there is one. -/
def Options.fixedNamespace (options : Options) : List (List String) :=
  match options.namespaceRule with
  | .fixed path => (Namespace.split path).toOption.toList
  | _ => []

/-- The namespaces that some statements assign into. -/
def Statement.targets (statements : List Statement) : List (List String) :=
  statements.filterMap Statement.target?

open Statement (targets)

namespace Bundle

variable {environment : Environment} {bundle after : Bundle} {options : Options}
  {template : Template} {statements : List Statement} {fixed : List (List String)}

theorem preamble_declaring {lines : List Statement}
    (succeeds : Assembling.effect (preamble environment) (start options) = (.ok lines, after)) :
    Declaring (options.fixedNamespace ++ targets lines) after.registry lines := by
  have fixedFirst (target : List String) (member : target ∈ options.fixedNamespace) :
      target ∈ options.fixedNamespace ++ targets lines := List.mem_append_left _ member
  have openings {openings : List Statement} {name ast compiled : Value}
      (opened : opening environment options name ast compiled = .ok openings) :
      Declaring [] (start options).registry openings :=
    Declaring.start.silent fun statement member =>
      Statement.silent_of_isWrapper (opening_isWrapper opened statement member)
  cases preamble_ok succeeds with
  | none _ => exact Declaring.start.weaken (by simp)
  | wrappers lines _ opened _ => exact (openings opened).weaken (by simp)
  | namespaced lines path target _ opened rule splits =>
      have sameFixed : options.fixedNamespace = [target] := by
        unfold Options.fixedNamespace
        change options.namespaceRule = _ at rule
        rw [rule]
        simp [splits, Except.toOption]
      refine ((openings opened).enter target).weaken fun other member => fixedFirst other ?_
      rw [sameFixed]
      simpa using member

theorem targets_append (first second : List Statement) :
    targets (first ++ second) = targets first ++ targets second := List.filterMap_append

theorem targets_additions {asked : Contribution}
    (uses : asked.statement.target? = asked.entered) (bundle : Bundle) :
    targets (bundle.additions asked) = asked.entered.toList := by
  have none : targets (bundle.missingSome asked.entered) = [] := by
    refine List.filterMap_eq_nil_iff.mpr fun statement member => ?_
    obtain ⟨paths, _, rfl⟩ := missingSome_declares member
    rfl
  rw [additions, targets_append, none, ← uses]
  cases used : asked.statement.target? <;> simp [targets, used]

/-- What a template adds is declared before it is used. -/
theorem additions_declaring {asked : Contribution}
    (contributes : asked.statement.isContribution = true)
    (uses : asked.statement.target? = asked.entered)
    (holds : Declaring (fixed ++ targets statements) bundle.registry statements) :
    Declaring (fixed ++ targets (statements ++ bundle.additions asked))
      (bundle.enteringSome asked.entered).registry (statements ++ bundle.additions asked) := by
  have declaresNone := Statement.declares_of_isContribution contributes
  rw [targets_append, targets_additions uses]
  unfold additions
  cases enters : asked.entered with
  | none =>
      rw [enters] at uses
      refine Declaring.weaken (holds.silent ?_) (by simp)
      intro other member
      rw [List.mem_singleton.mp member]
      exact ⟨declaresNone, uses⟩
  | some target =>
      rw [enters] at uses
      have used := (holds.enter target).use declaresNone uses
        (Declaring.ready_of_enter bundle.registry target)
      rw [← List.append_assoc, ← List.append_assoc]
      exact used

theorem silent_declaring {registry : Namespace.Registry} {more : List Statement}
    (wraps : ∀ statement ∈ more, statement.isWrapper = true)
    (holds : Declaring (fixed ++ targets statements) registry statements) :
    Declaring (fixed ++ targets (statements ++ more)) registry (statements ++ more) := by
  refine (holds.silent fun statement member =>
    Statement.silent_of_isWrapper (wraps statement member)).weaken ?_
  intro target member
  unfold targets at member ⊢
  rw [List.filterMap_append]
  simp only [List.mem_append] at member ⊢
  rcases member with isFixed | earlier
  · exact .inl isFixed
  · exact .inr (.inl earlier)

theorem assemble_declaring {body : String} {ast : Value} {fragment : Fragment}
    (succeeds : Assembling.effect (assemble environment template body ast) bundle =
      (.ok fragment, after))
    (holds : Declaring (fixed ++ targets statements) bundle.registry statements) :
    Declaring (fixed ++ targets (statements ++ fragment.statements)) after.registry
      (statements ++ fragment.statements) := by
  obtain ⟨asked, lines, ends, asks, rfl, wraps, whole⟩ := assemble_ok succeeds
  obtain ⟨opens, closes⟩ := wrappers_wrap wraps
  have known := contribution_ok asks
  rw [whole, ← List.append_assoc, ← List.append_assoc]
  have opened := silent_declaring opens holds
  exact silent_declaring closes (additions_declaring known.contributes known.target?_eq opened)

theorem assembleAll_declaring {templates : List (Template × Compiled)}
    {fragments : List Fragment}
    (succeeds : Assembling.effect (assembleAll environment templates) bundle =
      (.ok fragments, after))
    (holds : Declaring (fixed ++ targets statements) bundle.registry statements) :
    Declaring (fixed ++ targets (statements ++ fragments.flatMap Fragment.statements))
      after.registry (statements ++ fragments.flatMap Fragment.statements) := by
  rw [assembleAll_ok_iff] at succeeds
  induction succeeds generalizing statements with
  | done bundle => simpa using holds
  | next assembled _ inductionHypothesis =>
      rw [List.flatMap_cons, ← List.append_assoc]
      exact inductionHypothesis (assemble_declaring assembled holds)

end Bundle

/-- Every bundle is well declared. -/
theorem Composition.wellDeclared {environment : Environment} {options : Options}
    {templates : List (Template × Compiled)} {composition : Composition}
    (composed : Bundle.compose environment options templates = .ok composition) :
    Statement.WellDeclared options.fixedNamespace composition.statements := by
  obtain ⟨begun, begins, assembled⟩ := Composition.of_compose composed
  have holds := Bundle.silent_declaring (Bundle.ending_isWrapper composition.bundle)
    (Bundle.assembleAll_declaring assembled (Bundle.preamble_declaring begins))
  change Declaring (options.fixedNamespace ++ targets composition.statements) _
    composition.statements at holds
  constructor
  · rw [← holds.registered]
    exact holds.once
  · intro before statement target isPrefix uses path some toTarget
    exact holds.beforeUse before statement target isPrefix uses path
      (Namespace.mem_pathsTo.mpr ⟨some, toTarget⟩)
  · exact holds.afterParent
  · intro path member
    obtain ⟨_, target, reason, isPrefix⟩ := holds.needed path member
    rcases List.mem_append.mp reason with isFixed | used
    · exact .inl ⟨target, isFixed, isPrefix⟩
    · obtain ⟨statement, inStatements, uses⟩ := List.mem_filterMap.mp used
      exact .inr ⟨statement, inStatements, target, uses, isPrefix⟩

end TemplateBundle
