import Mathlib.Logic.Function.Basic
import TemplateBundle.Proofs.Program.Effect

/-!
Contract: programs that share a tree and do not notice each other.

Owns: the steps that a program takes on its own run, the condition on what steps do under which
programs are isolated, and that every interleaving of isolated programs comes to the values and
the views that each of them comes to on its own.

Does not own: which steps of tasks are isolated (`Proofs.Build`).
-/

namespace TemplateBundle

namespace Program

variable {κ α β : Type} {allowed : FileTree → FileStep → Prop} {tree : FileTree}

/-- Each step of a run is allowed in the tree that it is taken in. -/
def Follows (allowed : FileTree → FileStep → Prop) : Program α → FileTree → Prop
  | .done _, _ => True
  | .act step next, tree =>
      allowed tree step ∧
        (next (tree.perform step).1).Follows allowed (tree.perform step).2
  | .note _ next, tree => next.Follows allowed tree

theorem follows_bind (program : Program α) (following : α → Program β) (tree : FileTree) :
    (program >>= following).Follows allowed tree ↔
      program.Follows allowed tree ∧
        (following (program.effect tree).1).Follows allowed (program.effect tree).2 := by
  change (program.bind following).Follows allowed tree ↔ _
  induction program generalizing tree with
  | done value => exact (iff_of_eq (true_and _)).symm
  | act step next inductionHypothesis =>
      show allowed tree step ∧ _ ↔ (allowed tree step ∧ _) ∧ _
      rw [and_assoc]
      exact and_congr_right fun _ => inductionHypothesis _ _
  | note event next inductionHypothesis => exact inductionHypothesis tree

theorem follows_perform (step : FileStep) :
    (perform step).Follows allowed tree ↔ allowed tree step :=
  iff_of_eq (and_true _)

theorem follows_tell (events : List Event) : (tell events).Follows allowed tree := by
  induction events with
  | nil => exact trivial
  | cons event rest inductionHypothesis => exact inductionHypothesis

/-- What steps do to a shared tree, seen by programs that each have a tree of their own: the one
that takes an allowed step gets the answer of its own tree and sees its tree change alike, and
the others see nothing. -/
structure Isolated (view : κ → FileTree → FileTree → Prop)
    (allowed : κ → FileTree → FileStep → Prop) : Prop where
  answers : ∀ key shared own step, view key shared own → allowed key own step →
    (shared.perform step).1 = (own.perform step).1
  follows : ∀ key shared own step, view key shared own → allowed key own step →
    view key (shared.perform step).2 (own.perform step).2
  others : ∀ key shared own step, view key shared own → allowed key own step →
    ∀ other theirs, other ≠ key → view other shared theirs →
      view other (shared.perform step).2 theirs

namespace Isolated

variable [DecidableEq κ] {view : κ → FileTree → FileTree → Prop}
  {allowed : κ → FileTree → FileStep → Prop} {alone : κ → FileTree} {key : κ}

/-- After a step every program sees the tree that is then its own. -/
theorem views_step (isolated : Isolated view allowed) {step : FileStep}
    (views : ∀ other, view other tree (alone other)) (allows : allowed key (alone key) step) :
    ∀ other, view other (tree.perform step).2
      (Function.update alone key ((alone key).perform step).2 other) := by
  intro other
  by_cases same : other = key
  · subst same
    rw [Function.update_self]
    exact isolated.follows other tree (alone other) step (views other) allows
  · rw [Function.update_of_ne same]
    exact isolated.others key tree (alone key) step (views key) allows other _ same (views other)

/-- A program that runs from here to its end. -/
theorem effect (isolated : Isolated view allowed) (program : Program α)
    (views : ∀ other, view other tree (alone other))
    (follows : program.Follows (allowed key) (alone key)) :
    (program.effect tree).1 = (program.effect (alone key)).1 ∧
      ∀ other, view other (program.effect tree).2
        (Function.update alone key (program.effect (alone key)).2 other) := by
  induction program generalizing tree alone with
  | done value =>
      refine ⟨rfl, fun other => ?_⟩
      rw [effect_done, effect_done, Function.update_eq_self]
      exact views other
  | act step next inductionHypothesis =>
      obtain ⟨allows, followsNext⟩ := follows
      have same := isolated.answers key tree (alone key) step (views key) allows
      have viewsNext := isolated.views_step views allows
      have own : Function.update alone key ((alone key).perform step).2 key =
          ((alone key).perform step).2 := Function.update_self _ _ _
      rw [effect_act, effect_act, same]
      have tail := inductionHypothesis ((alone key).perform step).1 viewsNext
        (by rw [own]; exact followsNext)
      rw [own, Function.update_idem] at tail
      exact tail
  | note event next inductionHypothesis =>
      rw [effect_note, effect_note]
      exact inductionHypothesis views follows

/-- Programs by the keys of what they see. -/
abbrev Crew (κ α : Type) := List (κ × Program α)

/-- The keys are distinct, and each program takes allowed steps in the tree that is its own. -/
structure Ready (allowed : κ → FileTree → FileStep → Prop) (alone : κ → FileTree)
    (crew : Crew κ α) : Prop where
  distinct : (crew.map Prod.fst).Nodup
  follows : ∀ member ∈ crew, member.2.Follows (allowed member.1) (alone member.1)

/-- The values that programs come to on their own. -/
def ownValues (alone : κ → FileTree) (crew : Crew κ α) : List α :=
  crew.map fun member => (member.2.effect (alone member.1)).1

/-- Every program has come to the end that it comes to on its own, and sees its tree. -/
structure Settled (view : κ → FileTree → FileTree → Prop) (alone : κ → FileTree)
    (crew : Crew κ α) (tree : FileTree) : Prop where
  members : ∀ member ∈ crew, view member.1 tree (member.2.effect (alone member.1)).2
  others : ∀ other, other ∉ crew.map Prod.fst → view other tree (alone other)

theorem inOrder_cons_effect (program : Program α) (programs : List (Program α))
    (tree : FileTree) :
    (inOrder (program :: programs)).effect tree =
      ((program.effect tree).1 :: ((inOrder programs).effect (program.effect tree).2).1,
        ((inOrder programs).effect (program.effect tree).2).2) := by
  change (program >>= fun value => inOrder programs >>= fun values =>
    pure (value :: values)).effect tree = _
  rw [effect_bind, effect_bind]
  rfl

section Update

variable {crew : Crew κ α} {changed : FileTree}

/-- A change of one program's own tree leaves those of programs with other keys. -/
private theorem update_member (absent : key ∉ crew.map Prod.fst) {member : κ × Program α}
    (inCrew : member ∈ crew) : Function.update alone key changed member.1 = alone member.1 := by
  apply Function.update_of_ne
  rintro rfl
  exact absent (List.mem_map_of_mem inCrew)

private theorem ownValues_update (absent : key ∉ crew.map Prod.fst) :
    ownValues (Function.update alone key changed) crew = ownValues alone crew := by
  apply List.map_congr_left
  intro member inCrew
  rw [update_member absent inCrew]

private theorem follows_update (changed : FileTree) (absent : key ∉ crew.map Prod.fst)
    (follows : ∀ member ∈ crew, member.2.Follows (allowed member.1) (alone member.1)) :
    ∀ member ∈ crew,
      member.2.Follows (allowed member.1) (Function.update alone key changed member.1) := by
  intro member inCrew
  rw [update_member absent inCrew]
  exact follows member inCrew

end Update

/-- Programs one after the other come to what each comes to on its own. -/
theorem inOrder_effect (isolated : Isolated view allowed) {crew : Crew κ α}
    (ready : Ready allowed alone crew) (views : ∀ other, view other tree (alone other)) :
    ((inOrder (crew.map Prod.snd)).effect tree).1 = ownValues alone crew ∧
      Settled view alone crew ((inOrder (crew.map Prod.snd)).effect tree).2 := by
  induction crew generalizing tree alone with
  | nil => exact ⟨rfl, by simp, fun other _ => views other⟩
  | cons member rest inductionHypothesis =>
      obtain ⟨key, program⟩ := member
      obtain ⟨absent, distinct⟩ := List.nodup_cons.mp ready.distinct
      have followsRest := follows_update (program.effect (alone key)).2 absent
        fun other inRest => ready.follows other (List.mem_cons_of_mem _ inRest)
      obtain ⟨value, viewsAfter⟩ :=
        isolated.effect program views (ready.follows (key, program) (by simp))
      obtain ⟨values, settled⟩ := inductionHypothesis ⟨distinct, followsRest⟩ viewsAfter
      rw [ownValues_update absent] at values
      rw [List.map_cons, inOrder_cons_effect]
      refine ⟨?_, ?_, ?_⟩
      · change _ :: _ = (program.effect (alone key)).1 :: ownValues alone rest
        rw [value, values]
      · intro member inCrew
        rcases List.mem_cons.mp inCrew with rfl | inRest
        · have stays := settled.others key absent
          rwa [Function.update_self] at stays
        · have ends := settled.members member inRest
          rwa [update_member absent inRest] at ends
      · intro other outside
        rw [List.map_cons, List.mem_cons, not_or] at outside
        have stays := settled.others other outside.2
        rwa [Function.update_of_ne outside.1] at stays

section Advance

variable {front back : Crew κ α} {program later : Program α} {changed : FileTree}

omit [DecidableEq κ] in
private theorem absent_of_distinct
    (distinct : ((front ++ (key, program) :: back).map Prod.fst).Nodup) :
    key ∉ front.map Prod.fst ∧ key ∉ back.map Prod.fst := by
  rw [List.map_append, List.map_cons, List.nodup_append, List.nodup_cons] at distinct
  obtain ⟨_, ⟨notBack, _⟩, apart⟩ := distinct
  exact ⟨fun inFront => apart key inFront key (by simp) rfl, notBack⟩

/-- One program has gone on by a turn, and its own tree has changed with it. -/
private theorem ready_of_advance (ready : Ready allowed alone (front ++ (key, program) :: back))
    (follows : later.Follows (allowed key) changed) :
    Ready allowed (Function.update alone key changed) (front ++ (key, later) :: back) := by
  obtain ⟨notFront, notBack⟩ := absent_of_distinct ready.distinct
  refine ⟨by simpa using ready.distinct, ?_⟩
  intro member inCrew
  rcases List.mem_append.mp inCrew with inFront | inRest
  · exact follows_update changed notFront
      (fun other inside => ready.follows other (by simp [inside])) member inFront
  · rcases List.mem_cons.mp inRest with rfl | inBack
    · rwa [Function.update_self]
    · exact follows_update changed notBack
        (fun other inside => ready.follows other (by simp [inside])) member inBack

private theorem ownValues_of_advance
    (distinct : ((front ++ (key, program) :: back).map Prod.fst).Nodup)
    (same : later.effect changed = program.effect (alone key)) :
    ownValues (Function.update alone key changed) (front ++ (key, later) :: back) =
      ownValues alone (front ++ (key, program) :: back) := by
  obtain ⟨notFront, notBack⟩ := absent_of_distinct distinct
  have inFront : ownValues (Function.update alone key changed) front = ownValues alone front :=
    ownValues_update notFront
  have inBack : ownValues (Function.update alone key changed) back = ownValues alone back :=
    ownValues_update notBack
  unfold ownValues at inFront inBack ⊢
  rw [List.map_append, List.map_append, List.map_cons, List.map_cons, inFront, inBack]
  dsimp only
  rw [Function.update_self, same]

private theorem settled_of_advance
    (distinct : ((front ++ (key, program) :: back).map Prod.fst).Nodup)
    (same : later.effect changed = program.effect (alone key))
    (settled : Settled view (Function.update alone key changed)
      (front ++ (key, later) :: back) tree) :
    Settled view alone (front ++ (key, program) :: back) tree := by
  obtain ⟨notFront, notBack⟩ := absent_of_distinct distinct
  constructor
  · intro member inCrew
    rcases List.mem_append.mp inCrew with inFront | inRest
    · have ends := settled.members member (by simp [inFront])
      rwa [update_member notFront inFront] at ends
    · rcases List.mem_cons.mp inRest with rfl | inBack
      · have ends := settled.members (key, later) (by simp)
        dsimp only at ends
        rwa [Function.update_self, same] at ends
      · have ends := settled.members member (by simp [inBack])
        rwa [update_member notBack inBack] at ends
  · intro other outside
    have sameKeys : (front ++ (key, later) :: back).map Prod.fst =
        (front ++ (key, program) :: back).map Prod.fst := by simp
    have stays := settled.others other (by rwa [sameKeys])
    have different : other ≠ key := by
      rintro rfl
      exact outside (by simp)
    rwa [Function.update_of_ne different] at stays

end Advance

/-- In every interleaving, isolated programs come to the values that they come to on their own,
and each sees the tree that it would leave on its own. -/
theorem interleave_effect (isolated : Isolated view allowed) (schedule : List Nat)
    {crew : Crew κ α} (ready : Ready allowed alone crew)
    (views : ∀ other, view other tree (alone other)) :
    ((interleave schedule (crew.map Prod.snd)).effect tree).1 = ownValues alone crew ∧
      Settled view alone crew ((interleave schedule (crew.map Prod.snd)).effect tree).2 := by
  induction schedule generalizing crew tree alone with
  | nil => exact isolated.inOrder_effect ready views
  | cons turn schedule inductionHypothesis =>
      by_cases inRange : turn < crew.length
      · obtain ⟨front, key, program, back, rfl, rfl⟩ : ∃ front key program back,
            crew = front ++ (key, program) :: back ∧ front.length = turn := by
          refine ⟨crew.take turn, crew[turn].1, crew[turn].2, crew.drop (turn + 1), ?_, ?_⟩
          · show crew = crew.take turn ++ crew[turn] :: crew.drop (turn + 1)
            rw [List.getElem_cons_drop, List.take_append_drop]
          · exact List.length_take_of_le (Nat.le_of_lt inRange)
        have here : ((front ++ (key, program) :: back).map Prod.snd)[front.length]? =
            some program := by simp
        have next (later : Program α) :
            ((front ++ (key, program) :: back).map Prod.snd).set front.length later =
              (front ++ (key, later) :: back).map Prod.snd := by
          simp [List.set_append_right]
        have followsHere : program.Follows (allowed key) (alone key) :=
          ready.follows (key, program) (by simp)
        rw [interleave, here]
        -- What is left of the program goes on from what is then its own tree.
        cases program with
        | done value => exact inductionHypothesis ready views
        | note event later =>
            have followsLater : later.Follows (allowed key) (alone key) := followsHere
            have same : later.effect (alone key) = (note event later).effect (alone key) := rfl
            have tail := inductionHypothesis
              (ready_of_advance ready followsLater) (by rwa [Function.update_eq_self])
            rw [ownValues_of_advance ready.distinct same] at tail
            dsimp only
            rw [next, effect_note]
            exact ⟨tail.1, settled_of_advance ready.distinct same tail.2⟩
        | act step later =>
            obtain ⟨allows, followsLater⟩ := followsHere
            have same : (later ((alone key).perform step).1).effect ((alone key).perform step).2 =
                (act step later).effect (alone key) := rfl
            have tail := inductionHypothesis
              (ready_of_advance ready followsLater) (isolated.views_step views allows)
            rw [ownValues_of_advance ready.distinct same] at tail
            dsimp only
            rw [effect_act, isolated.answers key tree _ step (views key) allows, next]
            exact ⟨tail.1, settled_of_advance ready.distinct same tail.2⟩
      · have none : (crew.map Prod.snd)[turn]? = none := by simpa using inRange
        rw [interleave, none]
        exact inductionHypothesis ready views

end Isolated

end Program

namespace Work

variable {α β : Type} {allowed : FileTree → FileStep → Prop} {tree : FileTree}

/-- Each step of work is allowed in the tree that it is taken in. -/
def Follows (allowed : FileTree → FileStep → Prop) (work : Work α) (tree : FileTree) : Prop :=
  Program.Follows allowed work.run tree

theorem follows_lift {program : Program α} (follows : program.Follows allowed tree) :
    Work.Follows allowed (liftM program) tree := by
  change Program.Follows allowed
    (program >>= fun value => .done (.ok value : Except Failure α)) tree
  exact (Program.follows_bind _ _ _).mpr ⟨follows, trivial⟩

theorem follows_bind {work : Work α} {following : α → Work β}
    (first : Work.Follows allowed work tree)
    (later : ∀ value changed, Work.effect work tree = (.ok value, changed) →
      Work.Follows allowed (following value) changed) :
    Work.Follows allowed (work >>= following) tree := by
  change Program.Follows allowed (work.run >>= ExceptT.bindCont following) tree
  refine (Program.follows_bind _ _ _).mpr ⟨first, ?_⟩
  rcases outcome : work.run.effect tree with ⟨failure | value, changed⟩
  · exact trivial
  · exact later value changed outcome

end Work

end TemplateBundle
