import TemplateBundle.Program.Basic

/-!
Contract: what a run leaves, apart from what it told.

Owns: the effect of a program on a tree (its value and the tree after it), one equation for
each way of putting programs together, and the same for work that can fail.

Does not own: the events of a run.
-/

namespace TemplateBundle

namespace Program

variable {α β : Type}

/-- The value of a run and the tree it leaves. -/
def effect : Program α → FileTree → α × FileTree
  | .done value, tree => (value, tree)
  | .act step next, tree => (next (tree.perform step).1).effect (tree.perform step).2
  | .note _ next, tree => next.effect tree

/-- The effect is the run without its events. -/
theorem run_effect (program : Program α) (tree : FileTree) :
    ((program.run tree).value, (program.run tree).tree) = program.effect tree := by
  induction program generalizing tree with
  | done value => rfl
  | act step next inductionHypothesis => exact inductionHypothesis _ _
  | note event next inductionHypothesis => exact inductionHypothesis tree

theorem run_value (program : Program α) (tree : FileTree) :
    (program.run tree).value = (program.effect tree).1 := by
  rw [← run_effect]

theorem run_tree (program : Program α) (tree : FileTree) :
    (program.run tree).tree = (program.effect tree).2 := by
  rw [← run_effect]

@[simp] theorem effect_pure (value : α) (tree : FileTree) :
    (pure value : Program α).effect tree = (value, tree) := rfl

@[simp] theorem effect_done (value : α) (tree : FileTree) :
    (Program.done value).effect tree = (value, tree) := rfl

@[simp] theorem effect_act (step : FileStep) (next : step.Reply → Program α)
    (tree : FileTree) :
    (Program.act step next).effect tree =
      (next (tree.perform step).1).effect (tree.perform step).2 := rfl

@[simp] theorem effect_note (event : Event) (next : Program α) (tree : FileTree) :
    (Program.note event next).effect tree = next.effect tree := rfl

@[simp] theorem effect_perform (step : FileStep) (tree : FileTree) :
    (perform step).effect tree = tree.perform step := rfl

@[simp] theorem effect_log (level : LogLevel) (text : String) (tree : FileTree) :
    (log level text).effect tree = ((), tree) := rfl

@[simp] theorem effect_tell (events : List Event) (tree : FileTree) :
    (tell events).effect tree = ((), tree) := by
  induction events with
  | nil => rfl
  | cons event rest inductionHypothesis => exact inductionHypothesis

/-- One program after another goes on from the value and the tree of the first. -/
@[simp] theorem effect_bind (program : Program α) (following : α → Program β)
    (tree : FileTree) :
    (program >>= following).effect tree =
      (following (program.effect tree).1).effect (program.effect tree).2 := by
  change (program.bind following).effect tree = _
  induction program generalizing tree with
  | done value => rfl
  | act step next inductionHypothesis => exact inductionHypothesis _ _
  | note event next inductionHypothesis => exact inductionHypothesis tree

/-- Whatever a program may fail by, a program after it goes on from its value; a failure is the
end. -/
theorem effect_exceptBind {ε : Type} (work : ExceptT ε Program α)
    (following : α → ExceptT ε Program β) (tree : FileTree) :
    (work >>= following).run.effect tree =
      match work.run.effect tree with
      | (.ok value, changed) => (following value).run.effect changed
      | (.error failure, changed) => (.error failure, changed) := by
  change (work.run >>= ExceptT.bindCont following : Program _).effect tree = _
  rw [effect_bind]
  cases work.run.effect tree with
  | mk outcome changed => cases outcome <;> rfl

end Program

namespace Work

variable {α β : Type}

/-- The outcome of work that can fail and the tree it leaves. -/
def effect (work : Work α) (tree : FileTree) : Except Failure α × FileTree :=
  Program.effect work.run tree

@[simp] theorem effect_pure (value : α) (tree : FileTree) :
    Work.effect (pure value) tree = (.ok value, tree) := rfl

@[simp] theorem effect_throw (failure : Failure) (tree : FileTree) :
    Work.effect (throw failure : Work α) tree = (.error failure, tree) := rfl

@[simp] theorem effect_lift (program : Program α) (tree : FileTree) :
    Work.effect (liftM program) tree =
      (.ok (program.effect tree).1, (program.effect tree).2) := by
  change (Functor.map Except.ok program : Program _).effect tree = _
  exact Program.effect_bind program (fun value => .done (.ok value : Except Failure α)) tree

@[simp] theorem effect_exceptLift (program : Program α) (tree : FileTree) :
    Work.effect (ExceptT.lift program) tree =
      (.ok (program.effect tree).1, (program.effect tree).2) :=
  effect_lift program tree

/-- Work after work that has succeeded goes on from its value; a failure is the end. -/
theorem effect_bind (work : Work α) (following : α → Work β) (tree : FileTree) :
    Work.effect (work >>= following) tree =
      match Work.effect work tree with
      | (.ok value, changed) => Work.effect (following value) changed
      | (.error failure, changed) => (.error failure, changed) := by
  unfold Work.effect
  rw [Program.effect_exceptBind]
  cases work.run.effect tree with
  | mk outcome changed => cases outcome <;> rfl

theorem effect_bind_ok {work : Work α} {following : α → Work β} {tree changed : FileTree}
    {value : α} (succeeds : Work.effect work tree = (.ok value, changed)) :
    Work.effect (work >>= following) tree = Work.effect (following value) changed := by
  rw [effect_bind, succeeds]

end Work

theorem ok_of_toOption {ε α : Type} {outcome : Except ε α} {value : α}
    (succeeds : outcome.toOption = some value) : outcome = .ok value := by
  cases outcome with
  | error fault => simp [Except.toOption] at succeeds
  | ok found => rw [Option.some.inj succeeds]

/-- Two outcomes in a row that have succeeded, taken apart. -/
theorem ok_of_bind {ε α β : Type} {outcome : Except ε α} {following : α → Except ε β} {result : β}
    (succeeds : outcome.bind following = .ok result) :
    ∃ value, outcome = .ok value ∧ following value = .ok result := by
  cases outcome with
  | error fault => simp [Except.bind] at succeeds
  | ok value => exact ⟨value, rfl, succeeds⟩

/-- The kind and the text of a mishap. -/
def mishap? {α : Type} : Except Failure α → Option (Mishap × String)
  | .error (.mishap kind text) => some (kind, text)
  | _ => none

theorem error_of_mishap? {α : Type} {outcome : Except Failure α} {kind : Mishap} {text : String}
    (fails : mishap? outcome = some (kind, text)) : outcome = .error (.mishap kind text) := by
  unfold mishap? at fails
  split at fails
  · obtain ⟨rfl, rfl⟩ := Prod.mk.inj (Option.some.inj fails)
    rfl
  · simp at fails

/-- The faults of options that are refused. -/
def refused? {α : Type} : Except Failure α → Option (List OptionFault)
  | .error (.options faults) => some faults
  | _ => none

theorem error_of_refused? {α : Type} {outcome : Except Failure α} {faults : List OptionFault}
    (fails : refused? outcome = some faults) : outcome = .error (.options faults) := by
  unfold refused? at fails
  split at fails
  · rw [Option.some.inj fails]
  · simp at fails

end TemplateBundle
