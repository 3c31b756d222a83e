import TemplateBundle.Proofs.Bundle.Declarations

/-!
Contract: the bundles that a task can come to.

Owns: what work on a bundle keeps, whether it succeeds or fails; the bundles that are reached by
preambles, fragments and skips; and that the registry of each of them holds declarations as they
should be.

Does not own: in which order a task does its work (`Proofs.Bundle.Progress`).
-/

namespace TemplateBundle.Bundle

open Assembling

variable {holds : Bundle → Prop} {options : Options} {bundle : Bundle}

/-- Whatever entering a namespace keeps is kept by all work that does no more, also where the work
fails. -/
theorem OnlyResolves.keeps {α : Type} {work : Assembling α} (resolves : OnlyResolves work)
    (enters : ∀ bundle target, holds bundle → holds (bundle.entering target))
    (before : holds bundle) : holds (Assembling.effect work bundle).2 := by
  induction resolves generalizing bundle with
  | pure value => exact before
  | pass outcome => exact before
  | resolveBy environment rule file =>
      rw [resolveBy_effect]
      cases rule.target environment file with
      | ok target => exact enters bundle target before
      | error failure => exact before
  | get _ _ inductionHypothesis =>
      rw [effect_bind]
      exact inductionHypothesis bundle before
  | @bind _ _ work following _ _ first second =>
      have between := first before
      rw [effect_bind]
      rcases done : Assembling.effect work bundle with ⟨failure | value, changed⟩
      · rw [done] at between
        exact between
      · rw [done] at between
        exact second value between

/-! ### The bundles of a task -/

/-- The bundles that a task with some options can come to: by preambles, by templates that are
assembled and counted or skipped, with any functions and also where some of this fails. -/
inductive Reached (options : Options) : Bundle → Prop
  | start : Reached options (start options)
  | preamble {bundle : Bundle} (environment : Environment) : Reached options bundle →
      Reached options (Assembling.effect (preamble environment) bundle).2
  | assemble {bundle : Bundle} (environment : Environment) (template : Template) (body : String)
      (ast : Value) : Reached options bundle →
      Reached options (Assembling.effect (assemble environment template body ast) bundle).2
  | count {bundle : Bundle} : Reached options bundle → Reached options bundle.count
  | skip {bundle : Bundle} (relative : String) : Reached options bundle →
      Reached options (bundle.skip relative)

namespace Reached

/-- What holds at the start, and is kept by entering a namespace and by counting templates. -/
theorem invariant (holds : Bundle → Prop) (reached : Reached options bundle)
    (begins : holds (Bundle.start options))
    (enters : ∀ bundle target, holds bundle → holds (bundle.entering target))
    (tallies : ∀ bundle compiled skipped, holds bundle → holds (bundle.tallied compiled skipped)) :
    holds bundle := by
  induction reached with
  | start => exact begins
  | preamble environment _ inductionHypothesis =>
      exact (preamble_onlyResolves environment).keeps enters inductionHypothesis
  | assemble environment template body ast _ inductionHypothesis =>
      exact (assemble_onlyResolves environment template body ast).keeps enters inductionHypothesis
  | count _ inductionHypothesis => exact tallies _ _ _ inductionHypothesis
  | skip relative _ inductionHypothesis => exact tallies _ _ _ inductionHypothesis

theorem options_eq (reached : Reached options bundle) : bundle.options = options :=
  invariant (fun bundle => bundle.options = options) reached rfl (fun _ _ => id) fun _ _ _ => id

/-- The registry holds what some statements declare, as they should. -/
theorem declaring (reached : Reached options bundle) :
    ∃ reasons statements, Declaring reasons bundle.registry statements := by
  refine invariant (fun bundle => ∃ reasons statements,
    Declaring reasons bundle.registry statements) reached ⟨_, _, .start⟩ ?_ fun _ _ _ => id
  rintro bundle target ⟨reasons, statements, declares⟩
  exact ⟨_, _, declares.enter target⟩

/-- Whatever progress a task makes, it comes to a bundle that is reached. -/
theorem of_progress {environment : Environment} {attempts : List Attempt}
    {fragments : List Fragment} {after : Bundle}
    (done : progress environment bundle attempts = ⟨fragments, .ok after⟩)
    (reached : Reached options bundle) : Reached options after := by
  have completes := completes_of_progress done
  clear done
  induction completes with
  | done _ => exact reached
  | skipped _ inductionHypothesis => exact inductionHypothesis (reached.skip _)
  | @kept template compiled _ _ _ _ _ _ assembled _ inductionHypothesis =>
      have changed := reached.assemble environment template compiled.body compiled.ast
      rw [assembled] at changed
      exact inductionHypothesis changed.count

end Reached

end TemplateBundle.Bundle
