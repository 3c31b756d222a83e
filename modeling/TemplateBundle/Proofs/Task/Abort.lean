import TemplateBundle.Proofs.Task.Ends

/-!
Contract: a task that fails, whatever steps it is refused.

Owns: the ways in which a task can fail, each with the state of the output and of all other files
after it.
-/

namespace TemplateBundle.Task

open OutputStream (joined after)

variable {environment : Environment} {options : Options} {tree base left : FileTree}
  {location : Location} {executable : Bool} {bundle : Bundle} {failure : Failure}

/-- A task under way: its output is opened and holds some pieces after the preamble, and all else
is left as it was. -/
structure Underway (environment : Environment) (options : Options) (tree opened left : FileTree)
    (bundle : Bundle) (lines : List Statement) (location : Location) (executable : Bool)
    (pieces : List String) : Prop where
  preamble : Assembling.effect (Bundle.preamble environment) (Bundle.start options) =
    (.ok lines, bundle)
  opens : Work.MayEnd (openOutput environment options) tree (.ok ⟨bundle,
    after options.outputPath options.separator [Statement.render options.separator lines]⟩) opened
  holds : left.findNode options.outputPath = .ok (location, .file (joined options.separator
    (Statement.render options.separator lines :: pieces)).toUTF8 executable)
  spares : tree.Spares options.outputPath.parent (some location) left

/-- The attempts of a task at the first of some templates, each with the output as it is then. -/
structure Attempting (environment : Environment) (options : Options) (opened : FileTree)
    (bundle : Bundle) (lines : List Statement) (location : Location) (executable : Bool)
    (templates : List Template) (attempted : List Attempt) : Prop where
  discovers : Work.MayEnd (Template.discover options) opened (.ok templates) opened
  inside : attempted.map Prod.fst <+: templates
  tried : Tried environment options bundle (fun fragments => opened.holding location executable
    (joined options.separator (Statement.render options.separator lines ::
      fragments.map (Fragment.render options.separator)))) attempted

/-- How a task can fail, by what it is at, and what it leaves. -/
inductive Aborted (environment : Environment) (options : Options) (tree : FileTree)
    (failure : Failure) (left : FileTree) : Prop
  /-- Before the preamble is written: no file is touched. -/
  | unopened :
      (environment.compiler.available = .error failure ∨
        Work.MayEnd (openOutput environment options) tree (.error failure) left) →
      tree.Spares options.outputPath.parent none left →
      (∀ location content executable,
        tree.findNode options.outputPath = .ok (location, .file content executable) →
          left.findNode options.outputPath = .ok (location, .file content executable)) →
      (∀ location content executable,
        left.findNode options.outputPath = .ok (location, .file content executable) →
          tree.node? location = some (.file content executable)) →
      Aborted environment options tree failure left
  /-- Before any template: the output holds the preamble. -/
  | unlisted {opened : FileTree} {bundle : Bundle} {lines : List Statement} {location : Location}
      {executable : Bool} :
      Underway environment options tree opened left bundle lines location executable [] →
      Work.MayEnd (Template.discover options) opened (.error failure) opened →
      Aborted environment options tree failure left
  /-- At a template: the output holds the fragments of the templates before it. -/
  | unfilled {opened : FileTree} {bundle : Bundle} {lines : List Statement} {location : Location}
      {executable : Bool} {templates : List Template} {attempted : List Attempt}
      {fragments : List Fragment} :
      Underway environment options tree opened left bundle lines location executable
        (fragments.map (Fragment.render options.separator)) →
      Attempting environment options opened bundle lines location executable templates attempted →
      Written options.outputPath (Bundle.progress environment bundle attempted) fragments
        (.error failure) →
      Aborted environment options tree failure left
  /-- At the end: the output holds all fragments, and perhaps the ending, but is not closed. -/
  | unclosed {opened : FileTree} {bundle last : Bundle} {lines : List Statement}
      {location : Location} {executable : Bool} {templates : List Template}
      {attempted : List Attempt} {fragments : List Fragment} {more : List String}
      {fault : FileFault} :
      Underway environment options tree opened left bundle lines location executable
        (fragments.map (Fragment.render options.separator) ++ more) →
      Attempting environment options opened bundle lines location executable templates attempted →
      attempted.map Prod.fst = templates →
      Bundle.progress environment bundle attempted = ⟨fragments, .ok last⟩ →
      more <+: [Statement.render options.separator last.ending] →
      failure = Failure.ofFile (.write options.outputPath) fault →
      Aborted environment options tree failure left

/-- After the preamble is written, a failure leaves the pieces that are written by then. -/
theorem fill_aborts {lines : List Statement}
    (preamble : Assembling.effect (Bundle.preamble environment) (Bundle.start options) =
      (.ok lines, bundle))
    (spares : tree.Spares options.outputPath.parent none base)
    (writes : base.WritesTo options.outputPath location executable)
    (opens : Work.MayEnd (openOutput environment options) tree
      (.ok ⟨bundle, after options.outputPath options.separator
        [Statement.render options.separator lines]⟩)
      (base.holding location executable
        (joined options.separator [Statement.render options.separator lines])))
    (fails : Work.MayEnd (fill environment options ⟨bundle,
      after options.outputPath options.separator [Statement.render options.separator lines]⟩)
      (base.holding location executable
        (joined options.separator [Statement.render options.separator lines]))
      (.error failure) left) :
    Aborted environment options tree failure left := by
  have sameOptions : bundle.options = options :=
    (Bundle.preamble_leavesTally environment).keepsOptions preamble
  have underway (pieces : List String) : Underway environment options tree _
      (base.holding location executable
        (joined options.separator (Statement.render options.separator lines :: pieces)))
      bundle lines location executable pieces :=
    ⟨preamble, opens, writes.findNode _, spares.holding writes _⟩
  have holdsAgain (text : String) : (base.holding location executable
      (joined options.separator [Statement.render options.separator lines])).holding location
        executable text = base.holding location executable text := FileTree.set_twice ..
  unfold fill at fails
  rcases Work.mayEnd_bind.mp fails with ⟨templates, changed, discovers, rest⟩ | ⟨_, same, stops⟩
  · obtain rfl := (Template.discover_looks options).left_eq discovers
    have attempting {attempted : List Attempt} (inside : attempted.map Prod.fst <+: templates)
        (tried : Tried environment bundle.options bundle (fun fragments =>
          base.holding location executable (joined options.separator
            ([Statement.render options.separator lines] ++
              fragments.map (Fragment.render options.separator)))) attempted) :
        Attempting environment options _ bundle lines location executable templates attempted :=
      ⟨discovers, inside, by
        simpa only [holdsAgain, sameOptions, List.singleton_append] using tried⟩
    rcases Work.mayEnd_bind.mp rest with ⟨state, filled, adds, rest⟩ | ⟨_, same, adds⟩
    · obtain ⟨attempted, fragments, ended, inside, whole, tried, written, outcome, rfl⟩ :=
        addTemplates_mayEnd writes (by rw [sameOptions]) adds
      cases ended with
      | error other => simp [Except.map] at outcome
      | ok last =>
          obtain rfl := Except.ok.inj outcome
          obtain ⟨goes⟩ := written
          have lastOptions := (Bundle.progress_options goes).trans sameOptions
          obtain ⟨⟨fault, stops⟩, more, part, rfl⟩ :=
            closeOutput_mayEnd writes (by rw [lastOptions]) (ending_mayEnd rest)
          exact .unclosed (underway _) (attempting inside tried) (whole last rfl) goes part stops
    · obtain rfl := Except.error.inj same
      obtain ⟨attempted, fragments, ended, inside, _, tried, written, outcome, rfl⟩ :=
        addTemplates_mayEnd writes (by rw [sameOptions]) adds
      cases ended with
      | ok last => simp [Except.map] at outcome
      | error other =>
          obtain rfl := Except.error.inj outcome
          exact .unfilled (underway _) (attempting inside tried) written
  · obtain rfl := Except.error.inj same
    obtain rfl := (Template.discover_looks options).left_eq stops
    exact .unlisted (underway []) stops

end TemplateBundle.Task
