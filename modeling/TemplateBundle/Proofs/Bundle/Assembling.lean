import TemplateBundle.Bundle.Assembly

/-!
Contract: what work on a bundle does to it.

Owns: the effect of work on a bundle, one equation for each way of putting work together, what all
work is put together from, and the work that neither looks at the tally of a bundle nor changes it.
-/

namespace TemplateBundle

/-- The bundle with another tally of compiled and skipped templates. -/
def Bundle.tallied (bundle : Bundle) (compiled : Nat) (skipped : List String) : Bundle :=
  { bundle with compiled, skipped }

namespace Assembling

variable {α β : Type}

/-- The outcome of work on a bundle, and the bundle it leaves. -/
def effect (work : Assembling α) (bundle : Bundle) : Except Failure α × Bundle :=
  work.run bundle

@[simp] theorem effect_pure (value : α) (bundle : Bundle) :
    Assembling.effect (pure value) bundle = (.ok value, bundle) := rfl

@[simp] theorem effect_throw (failure : Failure) (bundle : Bundle) :
    Assembling.effect (throw failure : Assembling α) bundle = (.error failure, bundle) := rfl

@[simp] theorem effect_pass (outcome : Except Failure α) (bundle : Bundle) :
    Assembling.effect (Bundle.pass outcome) bundle = (outcome, bundle) := rfl

@[simp] theorem effect_get (bundle : Bundle) :
    Assembling.effect (get : Assembling Bundle) bundle = (.ok bundle, bundle) := rfl

@[simp] theorem effect_set (changed bundle : Bundle) :
    Assembling.effect (set changed : Assembling PUnit) bundle = (.ok ⟨⟩, changed) := rfl

@[simp] theorem effect_modify (change : Bundle → Bundle) (bundle : Bundle) :
    Assembling.effect (modify change : Assembling PUnit) bundle = (.ok ⟨⟩, change bundle) := rfl

theorem effect_bind (work : Assembling α) (following : α → Assembling β) (bundle : Bundle) :
    Assembling.effect (work >>= following) bundle =
      match Assembling.effect work bundle with
      | (.ok value, changed) => Assembling.effect (following value) changed
      | (.error failure, changed) => (.error failure, changed) := by
  change (match work.run bundle with
    | (outcome, changed) => ExceptT.bindCont following outcome changed) = _
  unfold effect
  cases work.run bundle with
  | mk outcome changed => cases outcome <;> rfl

/-- Work in two parts that has succeeded, taken apart. -/
theorem ok_of_effect_bind {work : Assembling α} {following : α → Assembling β}
    {bundle after : Bundle} {result : β}
    (succeeds : Assembling.effect (work >>= following) bundle = (.ok result, after)) :
    ∃ value changed, Assembling.effect work bundle = (.ok value, changed) ∧
      Assembling.effect (following value) changed = (.ok result, after) := by
  rw [effect_bind] at succeeds
  match first : Assembling.effect work bundle with
  | (.ok value, changed) =>
      rw [first] at succeeds
      exact ⟨value, changed, rfl, succeeds⟩
  | (.error failure, changed) =>
      rw [first] at succeeds
      simp at succeeds

/-- The work neither looks at the tally of a bundle nor changes it, and it keeps the options. -/
structure LeavesTally (work : Assembling α) : Prop where
  tally : ∀ bundle compiled skipped, Assembling.effect work (bundle.tallied compiled skipped) =
    ((Assembling.effect work bundle).1,
      (Assembling.effect work bundle).2.tallied compiled skipped)
  options : ∀ bundle, (Assembling.effect work bundle).2.options = bundle.options

namespace LeavesTally

theorem pure (value : α) : LeavesTally (Pure.pure value : Assembling α) where
  tally := fun _ _ _ => rfl
  options := fun _ => rfl

theorem pass (outcome : Except Failure α) : LeavesTally (Bundle.pass outcome) where
  tally := fun _ _ _ => rfl
  options := fun _ => rfl

theorem bind {work : Assembling α} {following : α → Assembling β} (first : LeavesTally work)
    (second : ∀ value, LeavesTally (following value)) : LeavesTally (work >>= following) where
  tally := by
    intro bundle compiled skipped
    rw [effect_bind, effect_bind, first.tally]
    match Assembling.effect work bundle with
    | (.ok value, changed) => exact (second value).tally changed compiled skipped
    | (.error failure, changed) => rfl
  options := by
    intro bundle
    have kept := first.options bundle
    rw [effect_bind]
    match Assembling.effect work bundle, kept with
    | (.ok value, changed), kept => exact ((second value).options changed).trans kept
    | (.error failure, changed), kept => exact kept

/-- Work that looks at the bundle first may go on by anything but the tally. -/
theorem get {following : Bundle → Assembling α}
    (blind : ∀ bundle compiled skipped,
      following (bundle.tallied compiled skipped) = following bundle)
    (second : ∀ bundle, LeavesTally (following bundle)) :
    LeavesTally (MonadState.get >>= following) where
  tally := by
    intro bundle compiled skipped
    rw [effect_bind, effect_bind]
    change Assembling.effect (following (bundle.tallied compiled skipped)) _ = _
    rw [blind]
    exact (second bundle).tally bundle compiled skipped
  options := by
    intro bundle
    rw [effect_bind]
    exact (second bundle).options bundle

end LeavesTally

namespace LeavesTally

variable {work : Assembling α} {bundle after : Bundle} {outcome : Except Failure α}
  {compiled : Nat} {skipped : List String} {value : α}

/-- What a bundle counts stays as it is. -/
theorem counts (leaves : LeavesTally work)
    (done : Assembling.effect work bundle = (outcome, after)) :
    after.compiled = bundle.compiled ∧ after.skipped = bundle.skipped := by
  have same := leaves.tally bundle bundle.compiled bundle.skipped
  change Assembling.effect work bundle = _ at same
  rw [done] at same
  have kept : after = after.tallied bundle.compiled bundle.skipped := congrArg Prod.snd same
  constructor
  · rw [kept]
    rfl
  · rw [kept]
    rfl

theorem keepsOptions (leaves : LeavesTally work)
    (done : Assembling.effect work bundle = (outcome, after)) :
    after.options = bundle.options := by
  have kept := leaves.options bundle
  rw [done] at kept
  exact kept

theorem of_effect_tallied (leaves : LeavesTally work) (bundle : Bundle)
    (succeeds : Assembling.effect work (bundle.tallied compiled skipped) = (.ok value, after)) :
    ∃ last, Assembling.effect work bundle = (.ok value, last) ∧
      after = last.tallied compiled skipped := by
  rw [leaves.tally, Prod.mk.injEq] at succeeds
  exact ⟨_, Prod.ext succeeds.1 rfl, succeeds.2.symm⟩

end LeavesTally

end Assembling

namespace Bundle

open Assembling

theorem resolve_effect (answer : Value) (file : String) (bundle : Bundle) :
    Assembling.effect (resolve answer file) bundle =
      match bundle.registry.resolveAnswer answer file with
      | (.error fault, _) => (.error (.config fault), bundle)
      | (.ok resolution, registry) =>
          (.ok resolution, { bundle with registry, target := resolution.target }) := by
  unfold resolve
  rw [effect_bind, effect_get]
  dsimp only
  match bundle.registry.resolveAnswer answer file with
  | (.error fault, _) => rfl
  | (.ok resolution, registry) => rfl

theorem resolve_leavesTally (answer : Value) (file : String) :
    LeavesTally (resolve answer file) where
  tally := by
    intro bundle compiled skipped
    rw [resolve_effect, resolve_effect]
    change (match bundle.registry.resolveAnswer answer file with
      | (.error fault, _) => _
      | (.ok resolution, registry) => _) = _
    match bundle.registry.resolveAnswer answer file with
    | (.error fault, _) => rfl
    | (.ok resolution, registry) => rfl
  options := by
    intro bundle
    rw [resolve_effect]
    match bundle.registry.resolveAnswer answer file with
    | (.error fault, _) => rfl
    | (.ok resolution, registry) => rfl

theorem resolveBy_leavesTally (environment : Environment) (rule : NamespaceRule)
    (file : String) : LeavesTally (resolveBy environment rule file) := by
  cases rule with
  | off => exact ⟨fun _ _ _ => rfl, fun _ => rfl⟩
  | fixed path => exact resolve_leavesTally (.text path) file
  | computed function => exact .bind (.pass _) fun answer => resolve_leavesTally answer file

/-! ### What all work is put together from -/

/-- The work does no more to a bundle than to resolve namespaces for it. It may look at anything but
the tally. -/
inductive OnlyResolves : {α : Type} → Assembling α → Prop
  | pure {α : Type} (value : α) : OnlyResolves (Pure.pure value)
  | pass {α : Type} (outcome : Except Failure α) : OnlyResolves (Bundle.pass outcome)
  | resolveBy (environment : Environment) (rule : NamespaceRule) (file : String) :
      OnlyResolves (Bundle.resolveBy environment rule file)
  | get {α : Type} {following : Bundle → Assembling α} :
      (∀ bundle compiled skipped,
        following (bundle.tallied compiled skipped) = following bundle) →
      (∀ bundle, OnlyResolves (following bundle)) → OnlyResolves (MonadState.get >>= following)
  | bind {α β : Type} {work : Assembling α} {following : α → Assembling β} :
      OnlyResolves work → (∀ value, OnlyResolves (following value)) →
      OnlyResolves (work >>= following)

theorem OnlyResolves.leavesTally {α : Type} {work : Assembling α} (resolves : OnlyResolves work) :
    LeavesTally work := by
  induction resolves with
  | pure value => exact .pure value
  | pass outcome => exact .pass outcome
  | resolveBy environment rule file => exact resolveBy_leavesTally environment rule file
  | get blind _ inductionHypothesis => exact .get blind inductionHypothesis
  | bind _ _ first second => exact .bind first second

theorem preamble_onlyResolves (environment : Environment) :
    OnlyResolves (preamble environment) := by
  refine .get (fun _ _ _ => rfl) fun bundle => ?_
  dsimp only
  cases bundle.options.wrapScope with
  | fragment => exact .pure _
  | output =>
      refine .bind (.pass _) fun lines => ?_
      cases bundle.options.namespaceRule with
      | fixed path =>
          exact .bind (.resolveBy environment (.fixed path) bundle.options.outputPath.toString)
            fun _ => .pure _
      | off => exact .pure _
      | computed function => exact .pure _

theorem core_onlyResolves (environment : Environment) (template : Template) (name : Value)
    (body : String) : OnlyResolves (core environment template name body) := by
  refine .get (fun _ _ _ => rfl) fun bundle => ?_
  have named (make : Namespace.Resolution → Core) : OnlyResolves (do
      let resolution ← resolveBy environment bundle.options.namespaceRule template.file
      pass (checkName name)
      pure (make resolution)) :=
    .bind (.resolveBy _ _ _) fun _ => .bind (.pass _) fun _ => .pure _
  by_cases isPartial : template.isPartial = true
  · rw [if_pos isPartial]
    by_cases inside : bundle.options.partialsUseNamespace = true
    · rw [if_pos inside]
      exact named _
    · rw [if_neg inside]
      exact .bind (.pass _) fun _ => .pure _
  · rw [if_neg isPartial]
    by_cases inside : bundle.options.usesNamespace = true
    · rw [if_pos inside]
      exact named _
    · rw [if_neg inside]
      exact .pure _

theorem assemble_onlyResolves (environment : Environment) (template : Template) (body : String)
    (ast : Value) : OnlyResolves (assemble environment template body ast) := by
  refine .get (fun _ _ _ => rfl) fun bundle => ?_
  refine .bind (.pass _) fun name => .bind (core_onlyResolves _ _ _ _) fun core => ?_
  cases bundle.options.wrapScope with
  | output => exact .pure _
  | fragment =>
      exact .bind (.pass _) fun lines => .get (fun _ _ _ => rfl) fun _ => .pure _

theorem preamble_leavesTally (environment : Environment) :
    LeavesTally (preamble environment) := (preamble_onlyResolves environment).leavesTally

theorem assemble_leavesTally (environment : Environment) (template : Template) (body : String)
    (ast : Value) : LeavesTally (assemble environment template body ast) :=
  (assemble_onlyResolves environment template body ast).leavesTally

end Bundle

end TemplateBundle
