import TemplateBundle.Proofs.Bundle.Contribution
import TemplateBundle.Template.Compilation

/-!
Contract: the fragments of several templates.

Owns: the fragments of compiled templates put together one after the other, the composition of
a whole bundle, the progress of a bundle over templates of which some are skipped, and the law
that skipping leaves the fragments of the others as they are.

Does not own: which templates are compiled (`Proofs.Task.Account`).
-/

namespace TemplateBundle

/-- A template and what became of reading and compiling it: its compiled form, none if the
template is skipped, or a failure. -/
abbrev Attempt := Template × Except Failure (Option Compiled)

namespace Attempt

/-- The template with its compiled form. -/
def kept? : Attempt → Option (Template × Compiled)
  | (template, .ok (some compiled)) => some (template, compiled)
  | _ => none

/-- The relative path of a template that is skipped. -/
def skipped? : Attempt → Option String
  | (template, .ok none) => some template.relative
  | _ => none

/-- The compiled templates among some, in order. -/
def kept (attempts : List Attempt) : List (Template × Compiled) := attempts.filterMap kept?

/-- The relative paths of the skipped templates among some, in order. -/
def skipped (attempts : List Attempt) : List String := attempts.filterMap skipped?

variable {template : Template} {compiled : Compiled} {attempts : List Attempt}

@[simp] theorem kept_cons_skipped :
    kept ((template, .ok none) :: attempts) = kept attempts := rfl

@[simp] theorem kept_cons_kept :
    kept ((template, .ok (some compiled)) :: attempts) =
      (template, compiled) :: kept attempts := rfl

@[simp] theorem skipped_cons_skipped :
    skipped ((template, .ok none) :: attempts) = template.relative :: skipped attempts := rfl

@[simp] theorem skipped_cons_kept :
    skipped ((template, .ok (some compiled)) :: attempts) = skipped attempts := rfl

/-- No template has failed the task. -/
def Settled (attempts : List Attempt) : Prop :=
  ∀ attempt ∈ attempts, ∀ failure, attempt.2 ≠ .error failure

theorem Settled.cons {outcome : Option Compiled} (settled : Settled attempts) :
    Settled ((template, .ok outcome) :: attempts) := by
  intro attempt member failure
  rcases List.mem_cons.mp member with rfl | inRest
  · simp
  · exact settled attempt inRest failure

/-- Every template that did not fail the task is compiled or skipped. -/
theorem length_kept_add_skipped (settled : Settled attempts) :
    (kept attempts).length + (skipped attempts).length = attempts.length := by
  induction attempts with
  | nil => rfl
  | cons attempt rest inductionHypothesis =>
      have tail := inductionHypothesis fun other member =>
        settled other (List.mem_cons_of_mem _ member)
      match attempt with
      | (template, .error failure) =>
          exact absurd rfl (settled (template, .error failure) (by simp) failure)
      | (template, .ok none) =>
          rw [kept_cons_skipped, skipped_cons_skipped, List.length_cons, List.length_cons]
          omega
      | (template, .ok (some compiled)) =>
          rw [kept_cons_kept, skipped_cons_kept, List.length_cons, List.length_cons]
          omega

theorem Settled.filter (settled : Settled attempts) (stays : Attempt → Bool) :
    Settled (attempts.filter stays) :=
  fun attempt member => settled attempt (List.mem_filter.mp member).1

theorem Settled.tail {attempt : Attempt} (settled : Settled (attempt :: attempts)) :
    Settled attempts :=
  fun other member => settled other (List.mem_cons_of_mem _ member)

end Attempt

/-- A bundle from its first statement to its last. -/
structure Composition where
  lines : List Statement
  fragments : List Fragment
  bundle : Bundle

/-- The statements of a bundle in the order they are written. -/
def Composition.statements (composition : Composition) : List Statement :=
  composition.lines ++ composition.fragments.flatMap Fragment.statements ++
    composition.bundle.ending

/-- How far a bundle has come: the fragments that are written, and the bundle after the last
template or the failure that was the end. -/
structure Progress where
  fragments : List Fragment
  outcome : Except Failure Bundle

/-- The progress with a fragment before the others. -/
def Progress.after (fragment : Fragment) (progress : Progress) : Progress :=
  { progress with fragments := fragment :: progress.fragments }

namespace Bundle

open Assembling

/-- The fragments of compiled templates. -/
def assembleAll (environment : Environment) :
    List (Template × Compiled) → Assembling (List Fragment)
  | [] => pure []
  | (template, compiled) :: rest => do
      let fragment ← assemble environment template compiled.body compiled.ast
      let fragments ← assembleAll environment rest
      pure (fragment :: fragments)

/-- The bundle of some compiled templates. -/
def compose (environment : Environment) (options : Options)
    (templates : List (Template × Compiled)) : Except Failure Composition :=
  match Assembling.effect (preamble environment) (start options) with
  | (.error failure, _) => .error failure
  | (.ok lines, begun) =>
      match Assembling.effect (assembleAll environment templates) begun with
      | (.error failure, _) => .error failure
      | (.ok fragments, bundle) => .ok ⟨lines, fragments, bundle⟩

/-- The progress of a bundle over templates that were read and compiled. -/
def progress (environment : Environment) : Bundle → List Attempt → Progress
  | bundle, [] => ⟨[], .ok bundle⟩
  | bundle, (template, attempt) :: rest =>
      match attempt with
      | .error failure => ⟨[], .error failure⟩
      | .ok none => progress environment (bundle.skip template.relative) rest
      | .ok (some compiled) =>
          match Assembling.effect (assemble environment template compiled.body compiled.ast)
            bundle with
          | (.error failure, _) => ⟨[], .error failure⟩
          | (.ok fragment, changed) => (progress environment changed.count rest).after fragment

variable {environment : Environment} {bundle after last : Bundle} {options : Options}
  {templates : List (Template × Compiled)} {fragments : List Fragment}
  {attempts : List Attempt}

/-- Fragments that are put together one after the other, each with the bundle that the one before
it left. -/
inductive Assembled (environment : Environment) :
    List (Template × Compiled) → Bundle → List Fragment → Bundle → Prop
  | done (bundle : Bundle) : Assembled environment [] bundle [] bundle
  | next {template : Template} {compiled : Compiled} {rest : List (Template × Compiled)}
      {bundle middle after : Bundle} {fragment : Fragment} {others : List Fragment} :
      Assembling.effect (assemble environment template compiled.body compiled.ast) bundle =
        (.ok fragment, middle) →
      Assembled environment rest middle others after →
      Assembled environment ((template, compiled) :: rest) bundle (fragment :: others) after

theorem assembleAll_ok_iff :
    Assembling.effect (assembleAll environment templates) bundle = (.ok fragments, after) ↔
      Assembled environment templates bundle fragments after := by
  constructor
  · intro succeeds
    induction templates generalizing bundle fragments with
    | nil =>
        obtain ⟨same, rfl⟩ := Prod.mk.inj succeeds
        obtain rfl := Except.ok.inj same
        exact .done bundle
    | cons made rest inductionHypothesis =>
        obtain ⟨fragment, middle, assembled, succeeds⟩ := ok_of_effect_bind succeeds
        obtain ⟨others, final, assembledRest, succeeds⟩ := ok_of_effect_bind succeeds
        simp only [effect_pure, Prod.mk.injEq, Except.ok.injEq] at succeeds
        obtain ⟨rfl, rfl⟩ := succeeds
        exact .next assembled (inductionHypothesis assembledRest)
  · intro assembled
    induction assembled with
    | done bundle => rfl
    | next assembled _ inductionHypothesis =>
        rw [assembleAll, effect_bind, assembled]
        dsimp only
        rw [effect_bind, inductionHypothesis]
        rfl

theorem assembleAll_leavesTally (environment : Environment)
    (templates : List (Template × Compiled)) : LeavesTally (assembleAll environment templates) := by
  induction templates with
  | nil => exact .pure _
  | cons first rest inductionHypothesis =>
      exact .bind (assemble_leavesTally _ _ _ _) fun _ => .bind inductionHypothesis fun _ => .pure _

/-- A bundle that gets to its end: each template is skipped, or adds its fragment. -/
inductive Completes (environment : Environment) :
    List Attempt → Bundle → List Fragment → Bundle → Prop
  | done (bundle : Bundle) : Completes environment [] bundle [] bundle
  | skipped {template : Template} {rest : List Attempt} {bundle after : Bundle}
      {fragments : List Fragment} :
      Completes environment rest (bundle.skip template.relative) fragments after →
      Completes environment ((template, .ok none) :: rest) bundle fragments after
  | kept {template : Template} {compiled : Compiled} {rest : List Attempt}
      {bundle changed after : Bundle} {fragment : Fragment} {others : List Fragment} :
      Assembling.effect (assemble environment template compiled.body compiled.ast) bundle =
        (.ok fragment, changed) →
      Completes environment rest changed.count others after →
      Completes environment ((template, .ok (some compiled)) :: rest) bundle
        (fragment :: others) after

theorem completes_of_progress
    (done : progress environment bundle attempts = ⟨fragments, .ok after⟩) :
    Completes environment attempts bundle fragments after := by
  induction attempts generalizing bundle fragments with
  | nil =>
      simp only [progress, Progress.mk.injEq, Except.ok.injEq] at done
      obtain ⟨rfl, rfl⟩ := done
      exact .done bundle
  | cons attempt rest inductionHypothesis =>
      rcases attempt with ⟨template, failure | _ | compiled⟩
      · simp [progress] at done
      · rw [progress] at done
        exact .skipped (inductionHypothesis done)
      · rw [progress] at done
        rcases assembled : Assembling.effect
            (assemble environment template compiled.body compiled.ast) bundle with
          ⟨failure | fragment, changed⟩
        · simp [assembled] at done
        · rw [assembled] at done
          obtain ⟨rfl, finished⟩ := Progress.mk.inj done
          have goes : progress environment changed.count rest =
              ⟨(progress environment changed.count rest).fragments, .ok after⟩ := by
            rw [← finished]
          exact .kept assembled (inductionHypothesis goes)

/-! ### Skipping -/

private theorem tallied_tallied (bundle : Bundle) (first second : Nat)
    (before later : List String) :
    (bundle.tallied first before).tallied second later = bundle.tallied second later := rfl

/-- A bundle that gets to its end has the fragments of the compiled templates, and counts
these and names the others. -/
theorem assembleAll_of_progress
    (done : progress environment bundle attempts = ⟨fragments, .ok after⟩) :
    Attempt.Settled attempts ∧ ∃ last,
      Assembling.effect (assembleAll environment (Attempt.kept attempts)) bundle =
        (.ok fragments, last) ∧
      after = last.tallied (bundle.compiled + (Attempt.kept attempts).length)
        (bundle.skipped ++ Attempt.skipped attempts) := by
  have completes := completes_of_progress done
  clear done
  induction completes with
  | done bundle =>
      refine ⟨fun _ impossible => by simp at impossible, bundle, rfl, ?_⟩
      simp [Attempt.kept, Attempt.skipped, tallied]
  | skipped _ inductionHypothesis =>
      obtain ⟨settled, final, assembled, counted⟩ := inductionHypothesis
      obtain ⟨last, assembledHere, rfl⟩ :=
        (assembleAll_leavesTally _ _).of_effect_tallied _ assembled
      refine ⟨settled.cons, last, assembledHere, ?_⟩
      rw [counted, tallied_tallied]
      simp [Bundle.skip]
  | kept assembled _ inductionHypothesis =>
      obtain ⟨settled, final, assembledRest, counted⟩ := inductionHypothesis
      obtain ⟨last, assembledHere, rfl⟩ :=
        (assembleAll_leavesTally _ _).of_effect_tallied _ assembledRest
      obtain ⟨compiledSame, skippedSame⟩ := (assemble_leavesTally _ _ _ _).counts assembled
      refine ⟨settled.cons, last, ?_, ?_⟩
      · rw [Attempt.kept_cons_kept]
        exact assembleAll_ok_iff.mpr (.next assembled (assembleAll_ok_iff.mp assembledHere))
      · rw [counted, tallied_tallied]
        simp only [Bundle.count, compiledSame, skippedSame, Attempt.kept_cons_kept,
          Attempt.skipped_cons_kept, List.length_cons]
        congr 1
        omega

theorem progress_options
    (done : progress environment bundle attempts = ⟨fragments, .ok after⟩) :
    after.options = bundle.options := by
  obtain ⟨_, last, assembled, rfl⟩ := assembleAll_of_progress done
  have kept : last.options = bundle.options :=
    (assembleAll_leavesTally _ _).keepsOptions assembled
  exact kept

/-- Over more attempts a bundle goes on from where it has come. -/
theorem progress_append (done : progress environment bundle attempts = ⟨fragments, .ok after⟩)
    (later : List Attempt) :
    progress environment bundle (attempts ++ later) =
      ⟨fragments ++ (progress environment after later).fragments,
        (progress environment after later).outcome⟩ := by
  have completes := completes_of_progress done
  clear done
  induction completes with
  | done bundle => rfl
  | skipped _ inductionHypothesis =>
      rw [List.cons_append, progress]
      exact inductionHypothesis
  | kept assembled _ inductionHypothesis =>
      rw [List.cons_append, progress, assembled]
      exact congrArg (Progress.after _) inductionHypothesis

/-- Each fragment has one statement for its template, and every statement has a text. -/
theorem assemble_statements {template : Template} {body : String} {ast : Value}
    {fragment : Fragment}
    (succeeds : Assembling.effect (assemble environment template body ast) bundle =
      (.ok fragment, after)) :
    (∀ statement ∈ fragment.statements, statement.IsFilled) ∧
      fragment.statements.countP Statement.isContribution = 1 := by
  obtain ⟨asked, lines, ends, asks, _, wraps, statements⟩ := assemble_ok succeeds
  obtain ⟨opens, closes⟩ := wrappers_wrap wraps
  have contributes := (contribution_ok asks).contributes
  have silent (around : List Statement)
      (wraps : ∀ statement ∈ around, statement.isWrapper = true) :
      around.countP Statement.isContribution = 0 :=
    List.countP_eq_zero.mpr fun statement member => by
      simp [Statement.isContribution_of_isWrapper (wraps statement member)]
  rw [statements]
  constructor
  · intro statement member
    rcases List.mem_append.mp member with front | inClosing
    · rcases List.mem_append.mp front with inOpening | inAdded
      · exact Statement.filled_of_isWrapper (opens statement inOpening)
      · exact additions_filled contributes statement inAdded
    · exact Statement.filled_of_isWrapper (closes statement inClosing)
  · rw [List.countP_append, List.countP_append, silent _ opens, silent _ closes,
      List.countP_eq_length_filter, additions_contributions contributes]
    rfl

theorem assembleAll_statements
    (succeeds : Assembling.effect (assembleAll environment templates) bundle =
      (.ok fragments, last)) :
    fragments.length = templates.length ∧ ∀ fragment ∈ fragments,
      (∀ statement ∈ fragment.statements, statement.IsFilled) ∧
        fragment.statements.countP Statement.isContribution = 1 := by
  rw [assembleAll_ok_iff] at succeeds
  induction succeeds with
  | done bundle => simp
  | next assembled _ inductionHypothesis =>
      obtain ⟨sameLength, holds⟩ := inductionHypothesis
      refine ⟨by simp [sameLength], ?_⟩
      intro other member
      rcases List.mem_cons.mp member with rfl | inRest
      · exact assemble_statements assembled
      · exact holds other inRest

/-- The lines before any fragment: in a wrapped output the openings, and one declaration of a
fixed namespace. -/
def frontLines (environment : Environment) (options : Options) :
    Except Failure (List Statement) :=
  match options.wrapScope with
  | .fragment => .ok []
  | .output =>
      match opening environment options (.text options.outputFile) .null .null with
      | .error failure => .error failure
      | .ok openings =>
          match options.namespaceRule with
          | .fixed path =>
              (Namespace.segmentsOrFailure path).map fun target =>
                openings ++ [.declare (Namespace.pathsTo target)]
          | _ => .ok openings

/-- The preamble of a bundle with nothing in it. -/
theorem frontLines_of_preamble {lines : List Statement}
    (succeeds : Assembling.effect (preamble environment) (start options) = (.ok lines, after)) :
    frontLines environment options = .ok lines := by
  unfold frontLines
  cases preamble_ok succeeds with
  | none scope =>
      change options.wrapScope = _ at scope
      rw [scope]
  | wrappers lines scope opened notFixed =>
      change options.wrapScope = _ at scope
      change opening environment options (.text options.outputFile) .null .null = _ at opened
      change ∀ path, options.namespaceRule ≠ _ at notFixed
      rw [scope, opened]
      cases rule : options.namespaceRule with
      | fixed path => exact absurd rule (notFixed path)
      | off => rfl
      | computed function => rfl
  | namespaced lines path target scope opened rule splits =>
      change options.wrapScope = _ at scope
      change opening environment options (.text options.outputFile) .null .null = _ at opened
      change options.namespaceRule = _ at rule
      have declared : (start options).missing target = [.declare (Namespace.pathsTo target)] := by
        change declarations (Namespace.Registry.empty.declareTo target).1 = _
        rw [Namespace.Registry.declareTo_eq, Namespace.Registry.lacking_empty, declarations,
          if_neg (Namespace.pathsTo_ne_nil (Namespace.split_ne_nil splits))]
      rw [scope, opened, declared]
      simp [rule, splits, Namespace.segmentsOrFailure, Except.map]

theorem preamble_filled {lines : List Statement}
    (succeeds : Assembling.effect (preamble environment) bundle = (.ok lines, after)) :
    ∀ statement ∈ lines, statement.IsFilled := by
  intro statement member
  cases preamble_ok succeeds with
  | none _ => simp at member
  | wrappers lines _ opened _ =>
      exact Statement.filled_of_isWrapper (opening_isWrapper opened statement member)
  | namespaced lines path target _ opened _ _ =>
      rcases List.mem_append.mp member with inOpening | declared
      · exact Statement.filled_of_isWrapper (opening_isWrapper opened statement inOpening)
      · obtain ⟨paths, some, rfl⟩ := missing_declares declared
        exact fun none => some (Statement.declare.inj none)

/-- A bundle that gets from its start to its end is the bundle of the compiled templates, and
its report counts these and names the others. -/
theorem compose_of_progress {begun : Bundle} {lines : List Statement}
    (begins : Assembling.effect (preamble environment) (start options) = (.ok lines, begun))
    (done : progress environment begun attempts = ⟨fragments, .ok after⟩) :
    Attempt.Settled attempts ∧ ∃ bundle,
      compose environment options (Attempt.kept attempts) = .ok ⟨lines, fragments, bundle⟩ ∧
      after.ending = bundle.ending ∧
      after.report = ⟨options.outputPath, (Attempt.kept attempts).length,
        Attempt.skipped attempts⟩ := by
  obtain ⟨settled, last, assembled, counted⟩ := assembleAll_of_progress done
  have begunOptions := (preamble_leavesTally environment).keepsOptions begins
  obtain ⟨noneCompiled, noneSkipped⟩ := (preamble_leavesTally environment).counts begins
  have sameOptions : after.options = options := (progress_options done).trans begunOptions
  refine ⟨settled, last, ?_, ?_, ?_⟩
  · unfold compose
    rw [begins]
    dsimp only
    rw [assembled]
  · rw [counted]
    rfl
  · unfold report
    rw [sameOptions, counted, noneCompiled, noneSkipped]
    simp [tallied, start]

end Bundle

namespace Composition

variable {environment : Environment} {options : Options} {composition : Composition}
  {templates : List (Template × Compiled)}

theorem of_compose (composed : Bundle.compose environment options templates = .ok composition) :
    ∃ begun, Assembling.effect (Bundle.preamble environment) (Bundle.start options) =
        (.ok composition.lines, begun) ∧
      Assembling.effect (Bundle.assembleAll environment templates) begun =
        (.ok composition.fragments, composition.bundle) := by
  unfold Bundle.compose at composed
  match begins : Assembling.effect (Bundle.preamble environment) (Bundle.start options) with
  | (.error failure, begun) => simp [begins] at composed
  | (.ok lines, begun) =>
      rw [begins] at composed
      dsimp only at composed
      match assembled : Assembling.effect (Bundle.assembleAll environment templates) begun with
      | (.error failure, last) => simp [assembled] at composed
      | (.ok fragments, last) =>
          rw [assembled] at composed
          obtain rfl := Except.ok.inj composed
          exact ⟨begun, rfl, assembled⟩

/-- The statements by the pieces they are written in. -/
def groups (composition : Composition) : List (List Statement) :=
  composition.lines :: composition.fragments.map Fragment.statements ++ [composition.bundle.ending]

theorem flatten_groups (composition : Composition) :
    composition.groups.flatten = composition.statements := by
  simp [groups, statements, List.flatMap]

theorem filled_groups (composed : Bundle.compose environment options templates = .ok composition) :
    ∀ group ∈ composition.groups, ∀ statement ∈ group, statement.IsFilled := by
  obtain ⟨begun, begins, assembled⟩ := of_compose composed
  intro group member statement inGroup
  simp only [groups, List.cons_append, List.mem_cons, List.mem_append, List.mem_map,
    List.not_mem_nil, or_false] at member
  rcases member with rfl | ⟨fragment, inFragments, rfl⟩ | rfl
  · exact Bundle.preamble_filled begins statement inGroup
  · exact ((Bundle.assembleAll_statements assembled).2 fragment inFragments).1 statement inGroup
  · exact Statement.filled_of_isWrapper (Bundle.ending_isWrapper _ statement inGroup)

end Composition

end TemplateBundle
