import TemplateBundle.Proofs.Bundle.Progress
import TemplateBundle.Proofs.Template.Discovery
import TemplateBundle.Task

/-!
Contract: what each part of a task does to the files and to its bundle.

Owns: what becomes of a template in a tree, the attempts that a run makes, and for each part
of a task its effect: opening the output, one template, all templates, closing the output.

The output file changes while templates are read. The attempts of a run are those it makes
on the tree as it is when each template's turn comes.
-/

namespace TemplateBundle.Task

open OutputStream (joined finished after)

/-- What becomes of a template that is read from a tree and compiled. -/
def attempt (environment : Environment) (options : Options) (tree : FileTree)
    (template : Template) : Except Failure (Option Compiled) :=
  match tree.read template.path with
  | .error _ => .ok none
  | .ok bytes =>
      match Text.decodeUtf8? bytes with
      | none => .ok none
      | some source =>
          match ((Compilation.compile environment options (wantsTree options) source
            template.file).run []).1 with
          | .ok compiled => .ok (some compiled)
          | .error (.template _ _) => .ok none
          | .error failure => .error failure

/-- What becomes of some templates in a tree. -/
def attempts (environment : Environment) (options : Options) (tree : FileTree)
    (templates : List Template) : List Attempt :=
  templates.map fun template => (template, attempt environment options tree template)

/-- The attempts that a run makes, each on the tree that the run has come to. -/
def replay (environment : Environment) : TaskState → List Template → FileTree → List Attempt
  | _, [], _ => []
  | state, template :: rest, tree =>
      (template, attempt environment state.bundle.options tree template) ::
        match Work.effect (addTemplate environment state template) tree with
        | (.ok next, changed) => replay environment next rest changed
        | (.error _, _) => []

variable {environment : Environment} {options : Options} {tree base : FileTree}
  {path : Path} {location : Location} {executable : Bool} {bundle : Bundle}

theorem toWork_effect {α : Type} (telling : Telling α) (tree : FileTree) :
    telling.toWork.run.effect tree = ((telling.run []).1, tree) := by
  change ((Program.tell (telling.run []).2) >>= fun _ => Program.done (telling.run []).1).effect
    tree = _
  rw [Program.effect_bind, Program.effect_tell]
  rfl

theorem tell_effect (events : List Event) (tree : FileTree) :
    Work.effect (liftM (Program.tell events)) tree = (.ok (), tree) := by
  rw [Work.effect_lift, Program.effect_tell]

theorem readText_effect (path : Path) (tree : FileTree) :
    (readText path).effect tree =
      (match tree.read path with
        | .error fault => .error (.file fault)
        | .ok bytes =>
            match Text.decodeUtf8? bytes with
            | some text => .ok text
            | none => .error .undecodable, tree) := by
  unfold readText
  rw [Program.effect_bind, Program.effect_perform]
  dsimp only [FileTree.perform]
  cases tree.read path with
  | error fault => rfl
  | ok bytes =>
      dsimp only
      cases Text.decodeUtf8? bytes <;> rfl

theorem compiled?_effect (environment : Environment) (options : Options) (template : Template)
    (tree : FileTree) :
    Work.effect (compiled? environment options template) tree =
      (attempt environment options tree template, tree) := by
  have skips (text : String) : Work.effect (do
      Program.log .warning text
      pure none : Work (Option Compiled)) tree = (.ok none, tree) := rfl
  unfold compiled? attempt
  rw [Work.effect_bind, Work.effect_lift, readText_effect]
  cases tree.read template.path with
  | error fault => exact skips _
  | ok bytes =>
      dsimp only
      cases Text.decodeUtf8? bytes with
      | none => exact skips _
      | some source =>
          dsimp only
          rw [Work.effect_bind, Work.effect_exceptLift, toWork_effect]
          dsimp only
          cases ((Compilation.compile environment options (wantsTree options) source
            template.file).run []).1 with
          | ok compiled => rfl
          | error failure => cases failure <;> rfl

/-- A template is read as it stands, whatever a file elsewhere holds. -/
theorem attempt_holding {template : Template} {place : Location} {node : Node} {first : String}
    (writes : base.WritesTo path location executable) (different : place ≠ location)
    (leads : (base.holding location executable first).findNode template.path = .ok (place, node))
    (second : String) :
    attempt environment options (base.holding location executable second) template =
      attempt environment options (base.holding location executable first) template := by
  unfold attempt
  rw [writes.read_other second different leads]

theorem assembling_effect {α : Type} (work : Assembling α) (bundle : Bundle) (tree : FileTree) :
    Work.effect (assembling bundle work) tree =
      (match Assembling.effect work bundle with
        | (.ok value, changed) => .ok (value, changed)
        | (.error failure, _) => .error failure, tree) := by
  unfold assembling Assembling.effect
  rcases work.run bundle with ⟨failure | value, changed⟩
  · exact Work.effect_bind_ok (tell_effect _ tree)
  · exact Work.effect_bind_ok (tell_effect _ tree)

theorem written_effect (result : Except Failure Unit × OutputStream) (tree : FileTree) :
    Work.effect (written result) tree = (result.1.map fun _ => result.2, tree) := by
  match result with
  | (.ok (), stream) => rfl
  | (.error failure, stream) => rfl

/-! ### One template -/

/-- A template that is skipped changes the bundle's tally alone; one that is compiled adds its
fragment to the output. -/
theorem addTemplate_effect (environment : Environment)
    (writes : base.WritesTo path location executable)
    (bundle : Bundle) (pieces : List String) (template : Template) :
    Work.effect (addTemplate environment
        ⟨bundle, after path bundle.options.separator pieces⟩ template)
        (base.holding location executable (joined bundle.options.separator pieces)) =
      match attempt environment bundle.options
        (base.holding location executable (joined bundle.options.separator pieces)) template with
      | .error failure => (.error failure,
          base.holding location executable (joined bundle.options.separator pieces))
      | .ok none => (.ok ⟨bundle.skip template.relative,
            after path bundle.options.separator pieces⟩,
          base.holding location executable (joined bundle.options.separator pieces))
      | .ok (some compiled) =>
          match Assembling.effect (Bundle.assemble environment template compiled.body compiled.ast)
            bundle with
          | (.error failure, _) => (.error failure,
              base.holding location executable (joined bundle.options.separator pieces))
          | (.ok fragment, changed) => (.ok ⟨changed.count, after path bundle.options.separator
                (pieces ++ [fragment.render bundle.options.separator])⟩,
              base.holding location executable (joined bundle.options.separator
                (pieces ++ [fragment.render bundle.options.separator]))) := by
  unfold addTemplate
  dsimp only
  rw [Work.effect_bind, compiled?_effect]
  cases attempt environment bundle.options
      (base.holding location executable (joined bundle.options.separator pieces)) template with
  | error failure => rfl
  | ok outcome =>
      cases outcome with
      | none => rfl
      | some compiled =>
          dsimp only
          rw [Work.effect_bind, assembling_effect]
          match Assembling.effect (Bundle.assemble environment template compiled.body compiled.ast)
            bundle with
          | (.error failure, _) => rfl
          | (.ok fragment, changed) =>
              dsimp only
              rw [Work.effect_bind, tell_effect]
              dsimp only
              rw [Work.effect_bind, Work.effect_lift, OutputStream.append_effect writes]
              dsimp only
              rw [Work.effect_bind, written_effect]
              rfl

/-! ### All templates -/

/-- The effect of all templates is the progress of the bundle over the attempts at them: its
fragments are the pieces that are added. -/
theorem addTemplates_effect (environment : Environment)
    (writes : base.WritesTo path location executable)
    (templates : List Template) (bundle : Bundle) (pieces : List String) (separator : String)
    (sameSeparator : bundle.options.separator = separator) :
    Work.effect (addTemplates environment ⟨bundle, after path separator pieces⟩ templates)
        (base.holding location executable (joined separator pieces)) =
      let progress := Bundle.progress environment bundle
        (replay environment ⟨bundle, after path separator pieces⟩ templates
          (base.holding location executable (joined separator pieces)))
      let written := pieces ++ progress.fragments.map (Fragment.render separator)
      (progress.outcome.map fun last => ⟨last, after path separator written⟩,
        base.holding location executable (joined separator written)) := by
  subst sameSeparator
  induction templates generalizing bundle pieces with
  | nil => simp [addTemplates, replay, Bundle.progress, Except.map]
  | cons template rest inductionHypothesis =>
      have step := addTemplate_effect environment writes bundle pieces template
      rw [addTemplates, Work.effect_bind, replay, step]
      dsimp only
      cases outcome : attempt environment bundle.options
          (base.holding location executable (joined bundle.options.separator pieces)) template with
      | error failure => simp [Bundle.progress, Except.map]
      | ok found =>
          cases found with
          | none => exact inductionHypothesis (bundle.skip template.relative) pieces
          | some compiled =>
              dsimp only
              rw [Bundle.progress]
              rcases assembled : Assembling.effect
                  (Bundle.assemble environment template compiled.body compiled.ast) bundle with
                ⟨failure | fragment, changed⟩
              · simp [Except.map]
              · have optionsKept := (Bundle.assemble_leavesTally _ _ _ _).keepsOptions assembled
                have sameOptions : changed.count.options = bundle.options := optionsKept
                have tail := inductionHypothesis changed.count
                  (pieces ++ [fragment.render bundle.options.separator])
                rw [sameOptions] at tail
                simpa [Progress.after] using tail

/-- Templates that the output file is not one of are read as if nothing were written. -/
theorem progress_replay (environment : Environment) (tree : FileTree)
    (writes : base.WritesTo path location executable)
    (templates : List Template) (bundle : Bundle) (pieces : List String) (separator : String)
    (sameSeparator : bundle.options.separator = separator)
    (apart : ∀ template ∈ templates, ∀ text, attempt environment bundle.options
      (base.holding location executable text) template =
        attempt environment bundle.options tree template) :
    Bundle.progress environment bundle
        (replay environment ⟨bundle, after path separator pieces⟩ templates
          (base.holding location executable (joined separator pieces))) =
      Bundle.progress environment bundle
        (attempts environment bundle.options tree templates) := by
  subst sameSeparator
  induction templates generalizing bundle pieces with
  | nil => rfl
  | cons template rest inductionHypothesis =>
      have step := addTemplate_effect environment writes bundle pieces template
      have here := apart template (by simp)
        (joined bundle.options.separator pieces)
      have apartRest := fun other member => apart other (List.mem_cons_of_mem template member)
      rw [replay, attempts, List.map_cons, step, here]
      cases outcome : attempt environment bundle.options tree template with
      | error failure => rfl
      | ok found =>
          cases found with
          | none =>
              exact inductionHypothesis (bundle.skip template.relative) pieces apartRest
          | some compiled =>
              rw [Bundle.progress, Bundle.progress]
              rcases assembled : Assembling.effect
                  (Bundle.assemble environment template compiled.body compiled.ast) bundle with
                ⟨failure | fragment, changed⟩
              · rfl
              · have optionsKept := (Bundle.assemble_leavesTally _ _ _ _).keepsOptions assembled
                have sameOptions : changed.count.options = bundle.options := optionsKept
                have tail := inductionHypothesis changed.count
                  (pieces ++ [fragment.render bundle.options.separator])
                  (by rw [sameOptions]; exact apartRest)
                rw [sameOptions] at tail
                simp only [assembled]
                exact congrArg (Progress.after fragment) tail

end TemplateBundle.Task
