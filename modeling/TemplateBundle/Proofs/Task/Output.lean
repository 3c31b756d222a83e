import TemplateBundle.Proofs.Task.Account

/-!
Contract: the output of a task that completes.

Owns: the tree in which the output is opened, the effect of a whole task as the progress of its
bundle, the bundle that a run writes, and the exact content of its file.
-/

namespace TemplateBundle

/-- Two paths lead to one node. -/
def FileTree.sameFile (tree : FileTree) (first second : Path) : Bool :=
  match tree.findNode first, tree.findNode second with
  | .ok (here, _), .ok (there, _) => here = there
  | _, _ => false

namespace Task

open OutputStream (joined finished after)

variable {environment : Environment} {options : Options} {tree base opened : FileTree}
  {path : Path} {location : Location} {executable : Bool} {state : TaskState}

/-! ### Opening the output -/

/-- The output file after its preamble is written: the directory is made in a tree, the file
is written in it, and it holds the preamble alone. -/
structure Opening (environment : Environment) (options : Options) (tree : FileTree)
    (state : TaskState) (opened base : FileTree) (location : Location) (executable : Bool)
    (lines : List Statement) : Prop where
  directory : Work.effect (ensureDirectory options.outputPath.parent) tree = (.ok (), base)
  preamble : Assembling.effect (Bundle.preamble environment) (Bundle.start options) =
    (.ok lines, state.bundle)
  writes : base.WritesTo options.outputPath location executable
  truncates : base.truncate options.outputPath (Statement.render options.separator lines) =
    .ok opened
  stream : state.stream = after options.outputPath options.separator
    [Statement.render options.separator lines]
  holds : opened = base.holding location executable
    (joined options.separator [Statement.render options.separator lines])

/-- Opening the output: the directory is made, the preamble is assembled, and only then is the
file made to hold it. -/
theorem openOutput_effect (environment : Environment) (options : Options) (tree : FileTree) :
    Work.effect (openOutput environment options) tree =
      match Work.effect (ensureDirectory options.outputPath.parent) tree with
      | (.error failure, left) => (.error failure, left)
      | (.ok (), base) =>
          match Assembling.effect (Bundle.preamble environment) (Bundle.start options) with
          | (.error failure, _) => (.error failure, base)
          | (.ok lines, bundle) =>
              match base.truncate options.outputPath (Statement.render options.separator lines) with
              | .error fault => (.error (Failure.ofFile (.write options.outputPath) fault), base)
              | .ok opened => (.ok ⟨bundle, after options.outputPath options.separator
                  [Statement.render options.separator lines]⟩, opened) := by
  unfold openOutput
  dsimp only
  rw [Work.effect_bind]
  rcases Work.effect (ensureDirectory options.outputPath.parent) tree with ⟨failure | ⟨⟩, base⟩
  · rfl
  · dsimp only
    rw [Work.effect_bind, assembling_effect]
    rcases Assembling.effect (Bundle.preamble environment) (Bundle.start options) with
      ⟨failure | lines, bundle⟩
    · rfl
    · dsimp only
      rw [Work.effect_bind, Work.effect_lift]
      rcases OutputStream.start_effect base options.outputPath options.separator
        (Statement.render options.separator lines) with
        ⟨location, executable, _, succeeds, started⟩ | ⟨fault, fails, started⟩
      · rw [started, succeeds]
        dsimp only
        rw [Work.effect_bind, written_effect]
        rfl
      · rw [started, fails]
        dsimp only
        rw [Work.effect_bind, written_effect]
        rfl

theorem openOutput_ok
    (opens : Work.effect (openOutput environment options) tree = (.ok state, opened)) :
    ∃ base location executable lines,
      Opening environment options tree state opened base location executable lines := by
  rw [openOutput_effect] at opens
  match directory : Work.effect (ensureDirectory options.outputPath.parent) tree with
  | (.error failure, left) => simp [directory] at opens
  | (.ok (), base) =>
      rw [directory] at opens
      dsimp only at opens
      match preamble : Assembling.effect (Bundle.preamble environment) (Bundle.start options) with
      | (.error failure, changed) => simp [preamble] at opens
      | (.ok lines, bundle) =>
          rw [preamble] at opens
          dsimp only at opens
          cases truncates : base.truncate options.outputPath
              (Statement.render options.separator lines) with
          | error fault => simp [truncates] at opens
          | ok found =>
              simp only [truncates, Prod.mk.injEq, Except.ok.injEq] at opens
              obtain ⟨rfl, rfl⟩ := opens
              obtain ⟨location, executable, writes, holds⟩ := FileTree.truncate_ok truncates
              refine ⟨base, location, executable, lines, directory, preamble, writes, truncates,
                rfl, ?_⟩
              rw [OutputStream.joined_singleton]
              exact holds

/-- A file that can be made to hold the preamble is the opened output. -/
theorem openOutput_of_truncate {bundle : Bundle} {lines : List Statement}
    (directory : Work.effect (ensureDirectory options.outputPath.parent) tree = (.ok (), base))
    (preamble : Assembling.effect (Bundle.preamble environment) (Bundle.start options) =
      (.ok lines, bundle))
    (truncates : base.truncate options.outputPath (Statement.render options.separator lines) =
      .ok opened) :
    Work.effect (openOutput environment options) tree =
      (.ok ⟨bundle, after options.outputPath options.separator
        [Statement.render options.separator lines]⟩, opened) := by
  rw [openOutput_effect, directory]
  dsimp only
  rw [preamble]
  dsimp only
  rw [truncates]

theorem Opening.sameOptions {lines : List Statement}
    (opening : Opening environment options tree state opened base location executable lines) :
    state.bundle.options = options :=
  (Bundle.preamble_leavesTally environment).keepsOptions opening.preamble

theorem Opening.opens {lines : List Statement}
    (opening : Opening environment options tree state opened base location executable lines) :
    Work.effect (openOutput environment options) tree = (.ok state, opened) := by
  rw [openOutput_of_truncate opening.directory opening.preamble opening.truncates,
    ← opening.stream]

theorem Opening.findNode {lines : List Statement}
    (opening : Opening environment options tree state opened base location executable lines) :
    ∃ node, opened.findNode options.outputPath = .ok (location, node) := by
  rw [opening.holds]
  exact ⟨_, opening.writes.findNode _⟩

/-- What is not the output file stands at another location. -/
theorem Opening.sameFile_eq_false {lines : List Statement} {other : Path} {place : Location}
    {node : Node}
    (opening : Opening environment options tree state opened base location executable lines)
    (leads : opened.findNode other = .ok (place, node)) :
    opened.sameFile other options.outputPath = false ↔ place ≠ location := by
  obtain ⟨output, outputLeads⟩ := opening.findNode
  unfold FileTree.sameFile
  rw [leads, outputLeads]
  exact decide_eq_false_iff_not

/-- If the output file is none of the templates, all are read as they are when the output is
opened. -/
theorem Opening.progress_replay {lines : List Statement} {templates : List Template}
    (opening : Opening environment options tree state opened base location executable lines)
    (discovers : Template.discovered options opened = .ok templates)
    (apart : ∀ template ∈ templates,
      opened.sameFile template.path options.outputPath = false) :
    Bundle.progress environment state.bundle (replay environment state templates opened) =
      Bundle.progress environment state.bundle
        (attempts environment options opened templates) := by
  have sameOptions := opening.sameOptions
  have same := Task.progress_replay environment opened opening.writes templates state.bundle
    [Statement.render options.separator lines] options.separator (by rw [sameOptions])
  rw [← opening.holds, ← opening.stream, sameOptions] at same
  apply same
  intro template member text
  obtain ⟨place, content, flag, leads⟩ := FileTree.findNode_of_regular
    (Template.discovered_regular discovers template member)
  have different : place ≠ location :=
    (opening.sameFile_eq_false leads).mp (apart template member)
  rw [opening.holds] at leads ⊢
  exact attempt_holding opening.writes different leads text

/-! ### After the opening -/

/-- What a task does after its output is opened. -/
def fill (environment : Environment) (options : Options) (state : TaskState) : Work Report := do
  let templates ← Template.discover options
  let state ← addTemplates environment state templates
  closeOutput state
  tellEnd state.bundle
  pure state.bundle.report

/-- A task whose compiler is available tells its route, opens its output and fills it. -/
theorem work_eq (available : environment.compiler.available = .ok ()) (options : Options) :
    work environment options = (do
      Program.log .info ("Precompiling " ++ route options)
      let state ← openOutput environment options
      fill environment options state) := by
  unfold work fill
  rw [available]

theorem work_effect (available : environment.compiler.available = .ok ()) (options : Options)
    (tree : FileTree) :
    Work.effect (work environment options) tree =
      match Work.effect (openOutput environment options) tree with
      | (.ok state, opened) => Work.effect (fill environment options state) opened
      | (.error failure, left) => (.error failure, left) := by
  rw [work_eq available, Work.effect_bind, Work.effect_lift, Program.effect_log]
  dsimp only
  rw [Work.effect_bind]
  rcases Work.effect (openOutput environment options) tree with ⟨failure | state, opened⟩
  · rfl
  · rfl

theorem available_of_work {report : Report} {last : FileTree}
    (completes : Work.effect (work environment options) tree = (.ok report, last)) :
    environment.compiler.available = .ok () := by
  unfold work at completes
  cases available : environment.compiler.available with
  | ok _ => rfl
  | error failure =>
      rw [available] at completes
      exact absurd (congrArg Prod.fst completes) (by simp [Work.effect_bind])

theorem tellEnd_effect (bundle : Bundle) (tree : FileTree) :
    Work.effect (tellEnd bundle) tree = (.ok (), tree) := by
  unfold tellEnd
  by_cases some : bundle.skipped ≠ []
  · rw [if_pos some]
    rfl
  · rw [if_neg some]
    rfl

theorem closeOutput_effect (writes : base.WritesTo path location executable)
    (bundle : Bundle) (pieces : List String) :
    Work.effect (closeOutput ⟨bundle, after path bundle.options.separator pieces⟩)
        (base.holding location executable (joined bundle.options.separator pieces)) =
      (.ok (), base.holding location executable (finished bundle.options.separator
        (pieces ++ [Statement.render bundle.options.separator bundle.ending]))) := by
  unfold closeOutput
  dsimp only
  rw [Work.effect_bind, Work.effect_lift, OutputStream.close_effect writes]
  rfl

/-- What fills the output: the fragments of the bundle's progress, then its ending. -/
theorem fill_effect (environment : Environment)
    (writes : base.WritesTo path location executable) {bundle : Bundle}
    (sameOptions : bundle.options = options) (first : String) :
    let state : TaskState := ⟨bundle, after path options.separator [first]⟩
    let opened := base.holding location executable (joined options.separator [first])
    Work.effect (fill environment options state) opened =
      match Template.discovered options opened with
      | .error failure => (.error failure, opened)
      | .ok templates =>
          let progress := Bundle.progress environment bundle
            (replay environment state templates opened)
          let pieces := first :: progress.fragments.map (Fragment.render options.separator)
          match progress.outcome with
          | .error failure => (.error failure,
              base.holding location executable (joined options.separator pieces))
          | .ok last => (.ok last.report, base.holding location executable
              (finished options.separator
                (pieces ++ [Statement.render options.separator last.ending]))) := by
  intro state opened
  unfold fill
  rw [Work.effect_bind, Template.discover_effect]
  cases Template.discovered options opened with
  | error failure => rfl
  | ok templates =>
      have all := addTemplates_effect environment writes templates bundle [first]
        options.separator (by rw [sameOptions])
      dsimp only at all ⊢
      rw [Work.effect_bind, all]
      match ends : Bundle.progress environment bundle
          (replay environment state templates opened) with
      | ⟨fragments, .error failure⟩ => rfl
      | ⟨fragments, .ok last⟩ =>
          have closes := closeOutput_effect writes last
            (first :: fragments.map (Fragment.render options.separator))
          rw [(Bundle.progress_options ends).trans sameOptions] at closes
          dsimp only [Except.map, List.singleton_append]
          rw [Work.effect_bind, closes]
          dsimp only
          rw [Work.effect_bind, tellEnd_effect]
          rfl

/-- The stream of an opened output holds the preamble alone. -/
theorem Opening.state_eq {lines : List Statement}
    (opening : Opening environment options tree state opened base location executable lines) :
    state = ⟨state.bundle, after options.outputPath options.separator
      [Statement.render options.separator lines]⟩ := by
  rw [← opening.stream]

theorem Opening.fill_effect {lines : List Statement}
    (opening : Opening environment options tree state opened base location executable lines) :
    Work.effect (fill environment options state) opened =
      match Template.discovered options opened with
      | .error failure => (.error failure, opened)
      | .ok templates =>
          let progress := Bundle.progress environment state.bundle
            (replay environment state templates opened)
          let pieces := Statement.render options.separator lines ::
            progress.fragments.map (Fragment.render options.separator)
          match progress.outcome with
          | .error failure => (.error failure,
              base.holding location executable (joined options.separator pieces))
          | .ok last => (.ok last.report, base.holding location executable
              (finished options.separator
                (pieces ++ [Statement.render options.separator last.ending]))) := by
  have fills := Task.fill_effect environment opening.writes opening.sameOptions
    (Statement.render options.separator lines)
  dsimp only at fills
  rw [← opening.state_eq, ← opening.holds] at fills
  exact fills

theorem run_of_unavailable {failure : Failure}
    (refuses : environment.compiler.available = .error failure) (options : Options)
    (tree : FileTree) : ((run environment options).run tree).value = .error failure := by
  rw [Program.run_value]
  change (Work.effect (work environment options) tree).1 = _
  unfold work
  rw [refuses]
  rfl

theorem run_of_unopened {failure : Failure} {left : FileTree}
    (available : environment.compiler.available = .ok ())
    (fails : Work.effect (openOutput environment options) tree = (.error failure, left)) :
    ((run environment options).run tree).value = .error failure := by
  rw [Program.run_value]
  change (Work.effect (work environment options) tree).1 = _
  rw [work_effect available, fails]

/-- What a run comes to whose output is opened. -/
theorem Opening.run_value {lines : List Statement}
    (available : environment.compiler.available = .ok ())
    (opening : Opening environment options tree state opened base location executable lines) :
    ((run environment options).run tree).value =
      match Template.discovered options opened with
      | .error failure => .error failure
      | .ok templates => (Bundle.progress environment state.bundle
          (replay environment state templates opened)).outcome.map Bundle.report := by
  rw [Program.run_value]
  change (Work.effect (work environment options) tree).1 = _
  rw [work_effect available, opening.opens]
  dsimp only
  rw [opening.fill_effect]
  cases Template.discovered options opened with
  | error failure => rfl
  | ok templates =>
      dsimp only
      cases (Bundle.progress environment state.bundle
        (replay environment state templates opened)).outcome <;> rfl

/-! ### Completed runs -/

/-- The tree as it is when a task has opened its output. -/
def openedTree (environment : Environment) (options : Options) (tree : FileTree) : FileTree :=
  (Work.effect (openOutput environment options) tree).2

/-- The bundle that a run writes: that of the templates it compiles. -/
def composition (environment : Environment) (options : Options) (tree : FileTree) :
    Except Failure Composition :=
  match Work.effect (openOutput environment options) tree with
  | (.error failure, _) => .error failure
  | (.ok state, opened) =>
      match Template.discovered options opened with
      | .error failure => .error failure
      | .ok templates =>
          Bundle.compose environment options
            (Attempt.kept (replay environment state templates opened))

/-- All that a run which completes has done: it opened its output, found templates, brought its
bundle to the end over the attempts at them, and wrote all pieces of it. -/
structure Completion (environment : Environment) (options : Options) (tree : FileTree)
    (report : Report) (left : FileTree) (state : TaskState) (base : FileTree)
    (location : Location) (executable : Bool) (lines : List Statement)
    (templates : List Template) (fragments : List Fragment) (last : Bundle) : Prop where
  opens : Work.effect (openOutput environment options) tree =
    (.ok state, openedTree environment options tree)
  opening : Opening environment options tree state (openedTree environment options tree) base
    location executable lines
  discovers : Template.discovered options (openedTree environment options tree) = .ok templates
  progress : Bundle.progress environment state.bundle
      (replay environment state templates (openedTree environment options tree)) =
    ⟨fragments, .ok last⟩
  report : report = last.report
  left : left = base.holding location executable (finished options.separator
    (Statement.render options.separator lines ::
      fragments.map (Fragment.render options.separator) ++
      [Statement.render options.separator last.ending]))

theorem completion_of_work {report : Report} {left : FileTree}
    (completes : Work.effect (work environment options) tree = (.ok report, left)) :
    ∃ state base location executable lines templates fragments last,
      Completion environment options tree report left state base location executable lines
        templates fragments last := by
  rw [work_effect (available_of_work completes)] at completes
  match opens : Work.effect (openOutput environment options) tree with
  | (.error failure, broken) => simp [opens] at completes
  | (.ok state, opened) =>
      rw [opens] at completes
      obtain rfl : openedTree environment options tree = opened := by
        rw [openedTree, opens]
      obtain ⟨base, location, executable, lines, opening⟩ := openOutput_ok opens
      have fills := opening.fill_effect
      dsimp only at completes
      rw [completes] at fills
      cases discovers : Template.discovered options (openedTree environment options tree) with
      | error failure => simp [discovers] at fills
      | ok templates =>
          rw [discovers] at fills
          dsimp only at fills
          match ends : Bundle.progress environment state.bundle
              (replay environment state templates (openedTree environment options tree)) with
          | ⟨fragments, .error failure⟩ => simp [ends] at fills
          | ⟨fragments, .ok last⟩ =>
              rw [ends] at fills
              simp only [Prod.mk.injEq, Except.ok.injEq] at fills
              exact ⟨state, base, location, executable, lines, templates, fragments, last, opens,
                opening, discovers, ends, fills.1, fills.2⟩

/-- A bundle that comes to its end is written by a run that completes. -/
theorem completion_of_progress {lines : List Statement} {templates : List Template}
    {fragments : List Fragment} {last : Bundle}
    (available : environment.compiler.available = .ok ())
    (opening : Opening environment options tree state opened base location executable lines)
    (discovers : Template.discovered options opened = .ok templates)
    (progress : Bundle.progress environment state.bundle
      (replay environment state templates opened) = ⟨fragments, .ok last⟩) :
    ((run environment options).run tree).value = .ok last.report ∧
      Completion environment options tree last.report ((run environment options).run tree).tree
        state base location executable lines templates fragments last := by
  have fills := opening.fill_effect
  rw [discovers] at fills
  dsimp only at fills
  rw [progress] at fills
  have works := work_effect available options tree
  rw [opening.opens] at works
  dsimp only at works
  rw [fills] at works
  obtain rfl : openedTree environment options tree = opened := by
    rw [openedTree, opening.opens]
  have value : ((run environment options).run tree).value = .ok last.report := by
    rw [Program.run_value]
    exact congrArg Prod.fst works
  refine ⟨value, opening.opens, opening, discovers, progress, rfl, ?_⟩
  rw [Program.run_tree]
  exact congrArg Prod.snd works

theorem completion_of_run {report : Report}
    (completes : ((run environment options).run tree).value = .ok report) :
    ∃ state base location executable lines templates fragments last,
      Completion environment options tree report ((run environment options).run tree).tree state
        base location executable lines templates fragments last := by
  apply completion_of_work
  rw [Program.run_value] at completes
  rw [Program.run_tree]
  exact Prod.ext completes rfl

/-- Statements that were joined piece by piece are one document. -/
private theorem finished_groups {composition : Composition} {separator : String}
    (filled : ∀ group ∈ composition.groups, ∀ statement ∈ group, statement.IsFilled) :
    finished separator (Statement.render separator composition.lines ::
        composition.fragments.map (Fragment.render separator) ++
        [Statement.render separator composition.bundle.ending]) =
      Statement.document separator composition.statements := by
  rw [← composition.flatten_groups, ← OutputStream.finished_render separator filled]
  simp only [Composition.groups, List.map_cons, List.map_append, List.map_map, List.map_nil]
  rfl

namespace Completion

variable {report : Report} {left : FileTree} {lines : List Statement}
  {templates : List Template} {fragments : List Fragment} {last : Bundle}

/-- The file holds the bundle of any attempts that bring the bundle as far as those made. -/
theorem document (completion : Completion environment options tree report left state base
      location executable lines templates fragments last) {attempted : List Attempt}
    (same : Bundle.progress environment state.bundle attempted = ⟨fragments, .ok last⟩) :
    ∃ bundled, Bundle.compose environment options (Attempt.kept attempted) = .ok bundled ∧
      bundled.lines = lines ∧ bundled.fragments = fragments ∧
      left.read options.outputPath =
        .ok (Statement.document options.separator bundled.statements).toUTF8 ∧
      report = ⟨options.outputPath, (Attempt.kept attempted).length,
        Attempt.skipped attempted⟩ := by
  obtain ⟨_, bundle, composed, sameEnding, reported⟩ :=
    Bundle.compose_of_progress completion.opening.preamble same
  refine ⟨_, composed, rfl, rfl, ?_, completion.report.trans reported⟩
  rw [completion.left, completion.opening.writes.read, sameEnding,
    ← finished_groups (Composition.filled_groups composed)]

/-- The bundle that a run writes, with its parts, is in the file. -/
theorem composed (completion : Completion environment options tree report left state base
      location executable lines templates fragments last) :
    ∃ bundled, composition environment options tree = .ok bundled ∧
      bundled.lines = lines ∧ bundled.fragments = fragments ∧
      left.read options.outputPath =
        .ok (Statement.document options.separator bundled.statements).toUTF8 := by
  obtain ⟨bundled, composed, sameLines, sameFragments, holds, _⟩ :=
    completion.document completion.progress
  refine ⟨bundled, ?_, sameLines, sameFragments, holds⟩
  unfold composition
  rw [completion.opens]
  dsimp only
  rw [completion.discovers]
  exact composed

/-- The bundle that a run writes is in its file, if the run completes. -/
theorem composition_ok (completion : Completion environment options tree report left state base
      location executable lines templates fragments last) :
    ∃ bundled, composition environment options tree = .ok bundled ∧
      left.read options.outputPath =
        .ok (Statement.document options.separator bundled.statements).toUTF8 := by
  obtain ⟨bundled, composed, _, _, holds⟩ := completion.composed
  exact ⟨bundled, composed, holds⟩

/-- If the output file is none of the templates, all are read as they were when the output was
opened. -/
theorem progress_eq (completion : Completion environment options tree report left state base
      location executable lines templates fragments last)
    (apart : ∀ template ∈ templates,
      (openedTree environment options tree).sameFile template.path options.outputPath = false) :
    Bundle.progress environment state.bundle
        (attempts environment options (openedTree environment options tree) templates) =
      ⟨fragments, .ok last⟩ := by
  rw [← completion.opening.progress_replay completion.discovers apart]
  exact completion.progress

end Completion

/-- A run that completes, and whose output file is none of the templates found, leaves in that
file the one document of all statements: the front lines, the fragments of the compiled
templates, and the ending. Every template is counted once, as compiled or as skipped. -/
theorem run_writes_document {report : Report} {templates : List Template}
    (completes : ((run environment options).run tree).value = .ok report)
    (discovers : (Work.effect (Template.discover options)
      (openedTree environment options tree)).1 = .ok templates)
    (apart : ∀ template ∈ templates,
      (openedTree environment options tree).sameFile template.path options.outputPath = false) :
    let tried := attempts environment options (openedTree environment options tree) templates
    ∃ bundled, Bundle.compose environment options (Attempt.kept tried) = .ok bundled ∧
      Bundle.frontLines environment options = .ok bundled.lines ∧
      ((run environment options).run tree).tree.read options.outputPath =
        .ok (Statement.document options.separator bundled.statements).toUTF8 ∧
      bundled.fragments.length = (Attempt.kept tried).length ∧
      (∀ fragment ∈ bundled.fragments,
        fragment.statements.countP Statement.isContribution = 1) ∧
      report = ⟨options.outputPath, (Attempt.kept tried).length, Attempt.skipped tried⟩ ∧
      (Attempt.kept tried).length + (Attempt.skipped tried).length = templates.length := by
  intro tried
  obtain ⟨state, base, location, executable, lines, found, fragments, last, completion⟩ :=
    completion_of_run completes
  rw [Template.discover_effect] at discovers
  obtain rfl : templates = found := Except.ok.inj (discovers.symm.trans completion.discovers)
  have progress := completion.progress_eq apart
  obtain ⟨settled, _⟩ := Bundle.compose_of_progress completion.opening.preamble progress
  obtain ⟨bundled, composed, rfl, rfl, holds, reported⟩ := completion.document progress
  obtain ⟨begun, _, assembled⟩ := Composition.of_compose composed
  obtain ⟨sameLength, contributes⟩ := Bundle.assembleAll_statements assembled
  refine ⟨bundled, composed, Bundle.frontLines_of_preamble completion.opening.preamble, holds,
    sameLength, fun fragment member => (contributes fragment member).2, reported, ?_⟩
  rw [Attempt.length_kept_add_skipped settled]
  exact List.length_map _

/-- A compiler that gives its source back, and refuses the source that says so. -/
def echo : Environment where
  call := fun _ _ => .error (.template "no function" none)
  compiler :=
    { available := .ok ()
      parse := .ok
      precompile := fun source _ =>
        match source with
        | .text "refuse" => .error (.template "refused" none)
        | .text text => .ok text
        | _ => .ok "" }

/-- A directory of three templates, of which one is a partial and one cannot be compiled, and a
file where the output goes. -/
def threeTemplates : FileTree where
  entries := [(["t"], .directory), (["t", "b.hbs"], .file "B".toUTF8 false),
    (["t", "_p.hbs"], .file "P".toUTF8 false), (["t", "a.hbs"], .file "refuse".toUTF8 false),
    (["out.js"], .file "old".toUTF8 false)]
  home := []

def threeOptions : Options := { inputDir := ⟨0, ["t"]⟩, outputFile := "out.js" }

theorem run_writes_document_of_three_templates :
    ((run echo threeOptions).run threeTemplates).value =
        .ok ⟨⟨0, ["out.js"]⟩, 2, ["a.hbs"]⟩ ∧
      ∃ bundled : Composition, ((run echo threeOptions).run threeTemplates).tree.read ⟨0, ["out.js"]⟩ =
        .ok (Statement.document "\n\n" bundled.statements).toUTF8 ∧
          bundled.fragments.length = 2 := by
  have completes : ((run echo threeOptions).run threeTemplates).value =
      .ok ⟨⟨0, ["out.js"]⟩, 2, ["a.hbs"]⟩ := ok_of_toOption (by decide +kernel)
  have discovers : (Work.effect (Template.discover threeOptions)
      (openedTree echo threeOptions threeTemplates)).1 = .ok
        [⟨⟨0, ["t", "_p.hbs"]⟩, "_p.hbs", "p", true⟩, ⟨⟨0, ["t", "a.hbs"]⟩, "a.hbs", "a", false⟩,
          ⟨⟨0, ["t", "b.hbs"]⟩, "b.hbs", "b", false⟩] := ok_of_toOption (by decide +kernel)
  obtain ⟨bundled, _, _, holds, sameLength, _⟩ :=
    run_writes_document completes discovers (by decide +kernel)
  exact ⟨completes, bundled, holds, sameLength.trans (by decide +kernel)⟩

end Task

end TemplateBundle
