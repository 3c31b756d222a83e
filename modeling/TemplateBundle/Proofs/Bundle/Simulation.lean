import TemplateBundle.Proofs.Bundle.Assembling
import TemplateBundle.Proofs.Program.Effect

/-!
Contract: two works side by side.

Owns: ends that are alike, and for work on the files and work on a bundle what it is to come to
ends that are alike, with the rule for each way of putting work together.
-/

namespace TemplateBundle

/-- Two ends are alike: with values that are related, or with one failure, and in states that are
related. -/
inductive Alongside {α β σ τ : Type} (values : α → β → Prop) (states : σ → τ → Prop) :
    Except Failure α × σ → Except Failure β × τ → Prop
  | ok {value : α} {other : β} {state : σ} {elsewhere : τ} :
      values value other → states state elsewhere →
      Alongside values states (.ok value, state) (.ok other, elsewhere)
  | error {failure : Failure} {state : σ} {elsewhere : τ} : states state elsewhere →
      Alongside values states (.error failure, state) (.error failure, elsewhere)

/-- Two outcomes of which the same is read are one failure, or values of which it is read. -/
theorem ends_of_map_eq {α β γ : Type} {read : α → γ} {readToo : β → γ} {one : Except Failure α}
    {other : Except Failure β} (same : one.map read = other.map readToo) :
    (∃ failure, one = .error failure ∧ other = .error failure) ∨
      ∃ value found, one = .ok value ∧ other = .ok found ∧ read value = readToo found := by
  rcases one with failure | value
  · rcases other with failureToo | found
    · exact .inl ⟨failure, rfl, congrArg Except.error (Except.error.inj same).symm⟩
    · simp [Except.map] at same
  · rcases other with failureToo | found
    · simp [Except.map] at same
    · exact .inr ⟨value, found, rfl, rfl, Except.ok.inj same⟩

namespace Work

variable {α β γ δ : Type} {values : α → β → Prop} {results : γ → δ → Prop}

/-- On every tree the two works end alike, and leave the same tree. -/
def Matches (values : α → β → Prop) (work : Work α) (other : Work β) : Prop :=
  ∀ tree, Alongside values Eq (Work.effect work tree) (Work.effect other tree)

namespace Matches

theorem refl (work : Work α) : Matches Eq work work := by
  intro tree
  rcases Work.effect work tree with ⟨failure | value, left⟩
  · exact .error rfl
  · exact .ok rfl rfl

theorem pure {value : α} {other : β} (related : values value other) :
    Matches values (Pure.pure value : Work α) (Pure.pure other : Work β) :=
  fun _ => .ok related rfl

/-- Works that are alike, followed by works that are alike after related values. -/
theorem bind {work : Work α} {other : Work β} {following : α → Work γ} {next : β → Work δ}
    (first : Matches values work other)
    (second : ∀ value other, values value other →
      Matches results (following value) (next other)) :
    Matches results (work >>= following) (other >>= next) := by
  intro tree
  have ends := first tree
  rw [Work.effect_bind, Work.effect_bind]
  generalize Work.effect work tree = done at ends
  generalize Work.effect other tree = doneToo at ends
  cases ends with
  | ok related same =>
      subst same
      exact second _ _ related _
  | error same => exact .error same

/-- Works that come to the same, followed by works that are alike after it. -/
theorem andThen {work other : Work α} {following : α → Work γ} {next : α → Work δ}
    (first : Matches Eq work other)
    (second : ∀ value, Matches results (following value) (next value)) :
    Matches results (work >>= following) (other >>= next) := by
  refine first.bind fun value other same => ?_
  subst same
  exact second value

/-- What is told makes no difference. -/
theorem tell (events others : List Event) :
    Matches Eq (liftM (Program.tell events) : Work Unit) (liftM (Program.tell others)) := by
  intro tree
  rw [Work.effect_lift, Work.effect_lift, Program.effect_tell, Program.effect_tell]
  exact .ok rfl rfl

end Matches

end Work

namespace Assembling

variable {α β γ δ : Type} {bundles : Bundle → Bundle → Prop} {values : α → β → Prop}
  {results : γ → δ → Prop}

/-- On related bundles the two works end alike, with related bundles again. -/
def Matches (bundles : Bundle → Bundle → Prop) (values : α → β → Prop) (work : Assembling α)
    (other : Assembling β) : Prop :=
  ∀ bundle twin, bundles bundle twin →
    Alongside values bundles (Assembling.effect work bundle) (Assembling.effect other twin)

namespace Matches

theorem pure {value : α} {other : β} (related : values value other) :
    Matches bundles values (Pure.pure value) (Pure.pure other) :=
  fun _ _ same => .ok related same

theorem pass (outcome : Except Failure α) :
    Matches bundles Eq (Bundle.pass outcome) (Bundle.pass outcome) := by
  intro bundle twin same
  rw [effect_pass, effect_pass]
  cases outcome with
  | error failure => exact .error same
  | ok value => exact .ok rfl same

theorem bind {work : Assembling α} {other : Assembling β} {following : α → Assembling γ}
    {next : β → Assembling δ} (first : Matches bundles values work other)
    (second : ∀ value other, values value other →
      Matches bundles results (following value) (next other)) :
    Matches bundles results (work >>= following) (other >>= next) := by
  intro bundle twin same
  have ends := first bundle twin same
  rw [effect_bind, effect_bind]
  generalize Assembling.effect work bundle = done at ends
  generalize Assembling.effect other twin = doneToo at ends
  cases ends with
  | ok related sameThen => exact second _ _ related _ _ sameThen
  | error sameThen => exact .error sameThen

theorem andThen {work other : Assembling α} {following : α → Assembling γ}
    {next : α → Assembling δ} (first : Matches bundles Eq work other)
    (second : ∀ value, Matches bundles results (following value) (next value)) :
    Matches bundles results (work >>= following) (other >>= next) := by
  refine first.bind fun value other same => ?_
  subst same
  exact second value

/-- Work that looks at the bundle first. -/
theorem get {following : Bundle → Assembling γ} {next : Bundle → Assembling δ}
    (second : ∀ bundle twin, bundles bundle twin →
      Matches bundles results (following bundle) (next twin)) :
    Matches bundles results (MonadState.get >>= following) (MonadState.get >>= next) := by
  intro bundle twin same
  rw [effect_bind, effect_bind]
  exact second bundle twin same bundle twin same

end Matches

end Assembling

end TemplateBundle
