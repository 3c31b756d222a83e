import TemplateBundle.Proofs.Program.Interleaving

/-!
Contract: programs whose steps may be refused.

Owns: the answers that a step may get, the ends that a run may come to when any of its steps may
be refused, one equivalence for each way of putting programs together, and programs that do no
more than look.

A step that is refused changes nothing, except that of several directories some may have been
made. What a program comes to when nothing is refused is one of the ends.
-/

namespace TemplateBundle

/-- The answer of a step that is refused. -/
def FileStep.refusal (fault : FileFault) : (step : FileStep) → step.Reply
  | .makeDirectories _ => .error fault
  | .truncate _ _ => .error fault
  | .append _ _ => .error fault
  | .list _ _ => .error fault
  | .inspect _ => .error fault
  | .read _ => .error fault
  | .reaches _ => false

/-- What a step may answer on a tree, and the tree after it. -/
inductive FileTree.Answers (tree : FileTree) : (step : FileStep) → step.Reply → FileTree → Prop
  | performed (step : FileStep) : Answers tree step (tree.perform step).1 (tree.perform step).2
  | refused (step : FileStep) (fault : FileFault) : Answers tree step (step.refusal fault) tree
  | halted {path : Path} {upper : List String} (fault : FileFault) : upper <+: path.parts →
      Answers tree (.makeDirectories path) (.error fault)
        (tree.makeDirectories ⟨path.slashes, upper⟩).2

/-- A step that changes nothing. -/
def FileStep.IsLook : FileStep → Prop
  | .makeDirectories _ => False
  | .truncate _ _ => False
  | .append _ _ => False
  | _ => True

theorem FileTree.Answers.of_look {tree left : FileTree} {step : FileStep} {reply : step.Reply}
    (answers : tree.Answers step reply left) (looks : step.IsLook) : left = tree := by
  cases answers with
  | performed => cases step <;> first | rfl | exact absurd looks id
  | refused => rfl
  | halted => exact absurd looks id

namespace Program

variable {α β : Type} {tree left : FileTree}

/-- A run may come to a value and leave a tree. -/
inductive MayEnd : Program α → FileTree → α → FileTree → Prop
  | done {tree : FileTree} {value : α} : MayEnd (.done value) tree value tree
  | act {step : FileStep} {next : step.Reply → Program α} {tree changed left : FileTree}
      {reply : step.Reply} {value : α} : tree.Answers step reply changed →
      MayEnd (next reply) changed value left → MayEnd (.act step next) tree value left
  | note {event : Event} {next : Program α} {tree left : FileTree} {value : α} :
      MayEnd next tree value left → MayEnd (.note event next) tree value left

theorem mayEnd_pure {result value : α} :
    (pure result : Program α).MayEnd tree value left ↔ value = result ∧ left = tree := by
  constructor
  · rintro ⟨⟩
    exact ⟨rfl, rfl⟩
  · rintro ⟨rfl, rfl⟩
    exact .done

theorem mayEnd_perform {step : FileStep} {reply : step.Reply} :
    (perform step).MayEnd tree reply left ↔ tree.Answers step reply left := by
  constructor
  · rintro (_ | ⟨answers, ⟨⟩⟩)
    exact answers
  · exact fun answers => .act answers .done

theorem mayEnd_log {level : LogLevel} {text : String} {value : Unit} :
    (log level text).MayEnd tree value left ↔ left = tree := by
  constructor
  · rintro (_ | _ | ends)
    exact (mayEnd_pure.mp ends).2
  · rintro rfl
    exact .note .done

/-- One program after another goes on from an end of the first. -/
theorem mayEnd_bind {program : Program α} {following : α → Program β} {value : β} :
    (program >>= following).MayEnd tree value left ↔
      ∃ middle changed, program.MayEnd tree middle changed ∧
        (following middle).MayEnd changed value left := by
  change (program.bind following).MayEnd tree value left ↔ _
  induction program generalizing tree with
  | done result =>
      constructor
      · exact fun ends => ⟨result, tree, .done, ends⟩
      · rintro ⟨_, _, ⟨⟩, ends⟩
        exact ends
  | act step next inductionHypothesis =>
      constructor
      · rintro (_ | ⟨answers, ends⟩)
        obtain ⟨middle, later, first, second⟩ := (inductionHypothesis _).mp ends
        exact ⟨middle, later, .act answers first, second⟩
      · rintro ⟨middle, later, (_ | ⟨answers, first⟩), second⟩
        exact .act answers ((inductionHypothesis _).mpr ⟨middle, later, first, second⟩)
  | note event next inductionHypothesis =>
      constructor
      · rintro (_ | _ | ends)
        obtain ⟨middle, later, first, second⟩ := inductionHypothesis.mp ends
        exact ⟨middle, later, .note first, second⟩
      · rintro ⟨middle, later, (_ | _ | first), second⟩
        exact .note (inductionHypothesis.mpr ⟨middle, later, first, second⟩)

/-- A run that takes no step has one end. -/
theorem effect_of_mayEnd {program : Program α} {value : α}
    (still : program.Follows (fun _ _ => False) tree) (ends : program.MayEnd tree value left) :
    program.effect tree = (value, left) := by
  induction ends with
  | done => rfl
  | act => exact absurd still.1 id
  | note _ inductionHypothesis => exact inductionHypothesis still

/-- A program of one step, which is not to make directories, comes to its effect or goes on from
a refusal. -/
theorem effect_of_mayEnd_step {step : FileStep} {following : step.Reply → Program α} {value : α}
    (single : ∀ path, step ≠ .makeDirectories path)
    (still : ∀ reply tree, (following reply).Follows (fun _ _ => False) tree)
    (ends : (perform step >>= following).MayEnd tree value left) :
    (perform step >>= following).effect tree = (value, left) ∨
      ∃ fault, (following (step.refusal fault)).effect tree = (value, left) := by
  obtain ⟨reply, changed, answers, rest⟩ := mayEnd_bind.mp ends
  have goesOn := effect_of_mayEnd (still reply changed) rest
  cases mayEnd_perform.mp answers with
  | performed =>
      left
      rw [effect_bind]
      exact goesOn
  | refused _ fault => exact .inr ⟨fault, goesOn⟩
  | halted => exact absurd rfl (single _)

/-- A program ends as it does when nothing is refused. -/
theorem mayEnd_effect (program : Program α) (tree : FileTree) :
    program.MayEnd tree (program.effect tree).1 (program.effect tree).2 := by
  induction program generalizing tree with
  | done value => exact .done
  | act step next inductionHypothesis =>
      exact .act (.performed step) (inductionHypothesis _ _)
  | note event next inductionHypothesis => exact .note (inductionHypothesis tree)

theorem mayEnd_run (program : Program α) (tree : FileTree) :
    program.MayEnd tree (program.run tree).value (program.run tree).tree := by
  rw [run_value, run_tree]
  exact mayEnd_effect program tree

/-- A program that takes no step but to look, whatever it is answered. -/
def Looks : Program α → Prop
  | .done _ => True
  | .act step next => step.IsLook ∧ ∀ reply, (next reply).Looks
  | .note _ next => next.Looks

theorem looks_bind {program : Program α} {following : α → Program β} (first : program.Looks)
    (second : ∀ value, (following value).Looks) : (program >>= following).Looks := by
  change (program.bind following).Looks
  induction program with
  | done value => exact second value
  | act step next inductionHypothesis =>
      exact ⟨first.1, fun reply => inductionHypothesis reply (first.2 reply)⟩
  | note event next inductionHypothesis => exact inductionHypothesis first

/-- What only looks leaves the tree as it is. -/
theorem Looks.left_eq {program : Program α} {value : α} (looks : program.Looks)
    (ends : program.MayEnd tree value left) : left = tree := by
  induction ends with
  | done => rfl
  | act answers _ inductionHypothesis =>
      obtain rfl := answers.of_look looks.1
      exact inductionHypothesis (looks.2 _)
  | note _ inductionHypothesis => exact inductionHypothesis looks

end Program

namespace Work

variable {α β : Type} {tree left : FileTree}

/-- Work that can fail may come to an outcome and leave a tree. -/
def MayEnd (work : Work α) (tree : FileTree) (outcome : Except Failure α) (left : FileTree) :
    Prop :=
  Program.MayEnd work.run tree outcome left

theorem mayEnd_pure {value : α} {outcome : Except Failure α} :
    Work.MayEnd (pure value) tree outcome left ↔ outcome = .ok value ∧ left = tree :=
  Program.mayEnd_pure

theorem mayEnd_throw {failure : Failure} {outcome : Except Failure α} :
    Work.MayEnd (throw failure) tree outcome left ↔ outcome = .error failure ∧ left = tree :=
  Program.mayEnd_pure

theorem mayEnd_lift {program : Program α} {outcome : Except Failure α} :
    Work.MayEnd (liftM program) tree outcome left ↔
      ∃ value, outcome = .ok value ∧ program.MayEnd tree value left := by
  change (program >>= fun value => Program.done (Except.ok value)).MayEnd tree outcome left ↔ _
  rw [Program.mayEnd_bind]
  constructor
  · rintro ⟨value, _, ends, ⟨⟩⟩
    exact ⟨value, rfl, ends⟩
  · rintro ⟨value, rfl, ends⟩
    exact ⟨value, left, ends, .done⟩

theorem effect_of_mayEnd {work : Work α} {outcome : Except Failure α}
    (still : Work.Follows (fun _ _ => False) work tree)
    (ends : Work.MayEnd work tree outcome left) : Work.effect work tree = (outcome, left) :=
  Program.effect_of_mayEnd still ends

/-- Work after work goes on from a success of the first, or ends with its failure. -/
theorem mayEnd_bind {work : Work α} {following : α → Work β} {outcome : Except Failure β} :
    Work.MayEnd (work >>= following) tree outcome left ↔
      (∃ value changed, Work.MayEnd work tree (.ok value) changed ∧
        Work.MayEnd (following value) changed outcome left) ∨
      ∃ failure, outcome = .error failure ∧ Work.MayEnd work tree (.error failure) left := by
  change (work.run >>= ExceptT.bindCont following : Program _).MayEnd tree outcome left ↔ _
  rw [Program.mayEnd_bind]
  constructor
  · rintro ⟨failure | value, changed, first, second⟩
    · obtain ⟨rfl, rfl⟩ := Program.mayEnd_pure.mp second
      exact .inr ⟨failure, rfl, first⟩
    · exact .inl ⟨value, changed, first, second⟩
  · rintro (⟨value, changed, first, second⟩ | ⟨failure, rfl, first⟩)
    · exact ⟨.ok value, changed, first, second⟩
    · exact ⟨.error failure, left, first, .done⟩

/-- A program that cannot fail is followed by what comes after it. -/
theorem mayEnd_lift_bind {program : Program α} {following : α → Work β}
    {outcome : Except Failure β} :
    Work.MayEnd (liftM program >>= following) tree outcome left ↔
      ∃ value changed, program.MayEnd tree value changed ∧
        Work.MayEnd (following value) changed outcome left := by
  rw [mayEnd_bind]
  constructor
  · rintro (⟨value, changed, first, second⟩ | ⟨failure, _, first⟩)
    · obtain ⟨found, same, ends⟩ := mayEnd_lift.mp first
      exact ⟨found, changed, ends, Except.ok.inj same ▸ second⟩
    · obtain ⟨found, same, _⟩ := mayEnd_lift.mp first
      simp at same
  · rintro ⟨value, changed, first, second⟩
    exact .inl ⟨value, changed, mayEnd_lift.mpr ⟨value, rfl, first⟩, second⟩

/-- A line of the log makes no difference. -/
theorem mayEnd_log_bind {level : LogLevel} {text : String} {following : Unit → Work β}
    {outcome : Except Failure β} :
    Work.MayEnd (liftM (Program.log level text) >>= following) tree outcome left ↔
      Work.MayEnd (following ()) tree outcome left := by
  rw [mayEnd_lift_bind]
  constructor
  · rintro ⟨_, _, logs, rest⟩
    obtain rfl := Program.mayEnd_log.mp logs
    exact rest
  · exact fun rest => ⟨(), tree, Program.mayEnd_log.mpr rfl, rest⟩

/-- Work that takes no step is followed by what comes after its effect, or ends with its
failure. -/
theorem mayEnd_bind_still {work : Work α} {following : α → Work β} {outcome : Except Failure β}
    (still : Work.Follows (fun _ _ => False) work tree)
    (ends : Work.MayEnd (work >>= following) tree outcome left) :
    match Work.effect work tree with
    | (.ok value, changed) => Work.MayEnd (following value) changed outcome left
    | (.error failure, changed) => outcome = .error failure ∧ left = changed := by
  rcases mayEnd_bind.mp ends with ⟨value, changed, first, second⟩ | ⟨failure, rfl, first⟩
  · rw [effect_of_mayEnd still first]
    exact second
  · rw [effect_of_mayEnd still first]
    exact ⟨rfl, rfl⟩

/-- Work that takes no step but to look. -/
def Looks (work : Work α) : Prop := Program.Looks work.run

theorem looks_lift {program : Program α} (looks : program.Looks) :
    Work.Looks (liftM program) := by
  change Program.Looks (program >>= fun value => .done (.ok value : Except Failure α))
  exact Program.looks_bind looks fun _ => trivial

theorem looks_bind {work : Work α} {following : α → Work β} (first : Work.Looks work)
    (second : ∀ value, Work.Looks (following value)) : Work.Looks (work >>= following) := by
  change Program.Looks (work.run >>= ExceptT.bindCont following)
  refine Program.looks_bind first ?_
  rintro (failure | value)
  · exact trivial
  · exact second value

theorem Looks.left_eq {work : Work α} {outcome : Except Failure α} (looks : Work.Looks work)
    (ends : Work.MayEnd work tree outcome left) : left = tree :=
  Program.Looks.left_eq looks ends

end Work

end TemplateBundle
