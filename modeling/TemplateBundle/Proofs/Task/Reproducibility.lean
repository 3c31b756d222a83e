import TemplateBundle.Proofs.Task.Skipping
import TemplateBundle.Proofs.Template.Files

/-!
Contract: what a bundle depends on.

Owns: the trees in which a task can work, with its output outside of the input directory; that
opening the output leaves the template files of such a tree as they are; and that a task does the
same in all trees with the same template files.
-/

namespace TemplateBundle

variable {environment : Environment} {options : Options} {tree base opened : FileTree}
  {path : Path} {location inputBase : Location} {executable : Bool} {templates : List Template}

theorem ensureDirectory_usable (usable : tree.UsableBelow [])
    (done : Work.effect (ensureDirectory path) tree = (.ok (), base)) : base.UsableBelow [] := by
  rcases ensureDirectory_ok done with ⟨_, rfl⟩ | ⟨_, made⟩
  · exact usable
  · have kept := FileTree.makeDirectories_usable usable path
    rwa [made] at kept

namespace Task

open OutputStream (after finished)

variable {state : TaskState} {lines : List Statement}

/-- A task can work in a tree: its input directory is there, at a location, and its output can be
opened, outside of that directory. -/
structure Ready (options : Options) (tree : FileTree) (inputBase : Location) : Prop where
  wellFormed : tree.WellFormed
  usable : tree.NamesUsable
  input : tree.findNode options.inputDir = .ok (inputBase, .directory)
  output : ∃ made opened location node,
    Work.effect (ensureDirectory options.outputPath.parent) tree = (.ok (), made) ∧
      made.truncate options.outputPath "" = .ok opened ∧
      opened.findNode options.outputPath = .ok (location, node) ∧ ¬ inputBase <+: location

/-- Where a task can work it opens its output, unless its preamble fails. -/
theorem Ready.opening {bundle : Bundle} (ready : Ready options tree inputBase)
    (preamble : Assembling.effect (Bundle.preamble environment) (Bundle.start options) =
      (.ok lines, bundle)) :
    ∃ opened made location executable,
      Opening environment options tree ⟨bundle, after options.outputPath options.separator
          [Statement.render options.separator lines]⟩ opened made location executable lines ∧
        ¬ inputBase <+: location := by
  obtain ⟨made, empty, place, node, directory, truncates, leads, outside⟩ := ready.output
  rcases FileTree.truncate_any made options.outputPath with
    ⟨location, executable, writes, succeeds⟩ | ⟨fault, fails⟩
  · rw [succeeds, Except.ok.injEq] at truncates
    rw [← truncates, writes.findNode, Except.ok.injEq, Prod.mk.injEq] at leads
    obtain rfl := leads.1
    refine ⟨_, made, location, executable,
      ⟨directory, preamble, writes, succeeds _, rfl, ?_⟩, outside⟩
    rw [OutputStream.joined_singleton]
  · rw [fails] at truncates
    simp at truncates

theorem Ready.run_of_preamble {failure : Failure} {bundle : Bundle}
    (ready : Ready options tree inputBase) (available : environment.compiler.available = .ok ())
    (preamble : Assembling.effect (Bundle.preamble environment) (Bundle.start options) =
      (.error failure, bundle)) :
    ((run environment options).run tree).value = .error failure := by
  obtain ⟨made, _, _, _, directory, _⟩ := ready.output
  have fails : Work.effect (openOutput environment options) tree = (.error failure, made) := by
    rw [openOutput_effect, directory]
    dsimp only
    rw [preamble]
  exact run_of_unopened available fails

namespace Opening

/-- An output outside of the input directory leaves that directory to be searched. -/
theorem inputAt
    (opening : Opening environment options tree state opened base location executable lines)
    (ready : Ready options tree inputBase) (normal : options.outputPath.IsNormal)
    (outside : ¬ inputBase <+: location) : Template.InputAt options opened inputBase := by
  have wellFormed := (opening.wellFormed ready.wellFormed normal).2
  have usable := ensureDirectory_usable (ready.usable.below []) opening.directory
  have grows (text : String) : FileTree.Grows tree (base.holding location executable text) :=
    (ensureDirectory_spares opening.directory).grows.trans
      (FileTree.grows_holding opening.writes.notRoot opening.writes.fileOrFree text)
  rw [opening.holds]
  refine ⟨wellFormed _, ?_, FileTree.findNode_directory_grows (grows _) ready.input⟩
  intro names stands
  have different : inputBase ++ names ≠ location := by
    rintro rfl
    exact outside (List.prefix_append _ _)
  rw [opening.writes.node?_holding, if_neg different] at stands
  exact usable.into inputBase names stands

/-- An output outside of the input directory is none of the template files, and makes none. -/
theorem isFile_iff
    (opening : Opening environment options tree state opened base location executable lines)
    (ready : Ready options tree inputBase) (normal : options.outputPath.IsNormal)
    (outside : ¬ inputBase <+: location) {names : List String} {content : ByteArray} :
    Template.IsFile options opened inputBase names content ↔
      Template.IsFile options tree inputBase names content := by
  have spares := ensureDirectory_spares opening.directory
  have elsewhere (names : List String) :
      opened.node? (inputBase ++ names) = base.node? (inputBase ++ names) := by
    rw [opening.holds, opening.writes.node?_holding, if_neg]
    rintro rfl
    exact outside (List.prefix_append _ _)
  constructor
  · intro isFile
    refine isFile.of_files ready.wellFormed fun names content executable stands => ?_
    rw [elsewhere] at stands
    exact spares.file_before stands
  · intro isFile
    refine isFile.of_files (opening.inputAt ready normal outside).wellFormed
      fun names content executable stands => ?_
    rw [elsewhere]
    exact spares.kept _ _ (by simp) stands

/-- An output outside of the input directory is none of the templates. -/
theorem apart {files : List (List String)}
    (opening : Opening environment options tree state opened base location executable lines)
    (input : Template.InputAt options opened inputBase) (outside : ¬ inputBase <+: location)
    (isFile : ∀ names ∈ files, ∃ content, Template.IsFile options opened inputBase names content) :
    ∀ template ∈ files.map (Template.ofNames options),
      opened.sameFile template.path options.outputPath = false := by
  intro template member
  obtain ⟨names, inFiles, rfl⟩ := List.mem_map.mp member
  obtain ⟨content, standing⟩ := isFile names inFiles
  obtain ⟨flag, leads⟩ := standing.findNode input
  rw [opening.sameFile_eq_false leads]
  rintro rfl
  exact outside (List.prefix_append _ _)

/-- What a run comes to, and what it leaves in its file, if the output is none of the templates:
both follow from the attempts at these. -/
theorem ends
    (opening : Opening environment options tree state opened base location executable lines)
    (available : environment.compiler.available = .ok ())
    (discovers : Template.discovered options opened = .ok templates)
    (apart : ∀ template ∈ templates,
      opened.sameFile template.path options.outputPath = false) :
    let progress := Bundle.progress environment state.bundle
      (attempts environment options opened templates)
    ((run environment options).run tree).value = progress.outcome.map Bundle.report ∧
      ∀ last, progress.outcome = .ok last →
        ((run environment options).run tree).tree.read options.outputPath =
          .ok (finished options.separator (Statement.render options.separator lines ::
            progress.fragments.map (Fragment.render options.separator) ++
            [Statement.render options.separator last.ending])).toUTF8 := by
  intro progress
  have replayed := opening.progress_replay discovers apart
  constructor
  · rw [opening.run_value available, discovers]
    dsimp only
    rw [replayed]
  · intro last ends
    have isProgress : Bundle.progress environment state.bundle
        (replay environment state templates opened) = ⟨progress.fragments, .ok last⟩ := by
      rw [replayed, ← ends]
    obtain ⟨_, completion⟩ := completion_of_progress available opening discovers isProgress
    rw [completion.left]
    exact opening.writes.read _

end Opening

/-- Templates are compiled alike in two trees where their files are the same. -/
theorem attempts_same (environment : Environment) {first second : FileTree}
    {firstBase secondBase : Location} {files : List (List String)}
    (input : Template.InputAt options first firstBase)
    (inputToo : Template.InputAt options second secondBase)
    (isFile : ∀ names ∈ files, ∃ content, Template.IsFile options first firstBase names content)
    (same : ∀ names content, Template.IsFile options first firstBase names content ↔
      Template.IsFile options second secondBase names content) :
    attempts environment options second (files.map (Template.ofNames options)) =
      attempts environment options first (files.map (Template.ofNames options)) := by
  unfold attempts
  apply List.map_congr_left
  intro template member
  obtain ⟨names, inFiles, rfl⟩ := List.mem_map.mp member
  obtain ⟨content, standing⟩ := isFile names inFiles
  obtain ⟨flag, leads⟩ := standing.findNode input
  obtain ⟨flagToo, leadsToo⟩ := ((same names content).mp standing).findNode inputToo
  have sameRead : second.read (Template.ofNames options names).path =
      first.read (Template.ofNames options names).path := by
    unfold FileTree.read
    rw [leads, leadsToo]
  unfold attempt
  rw [sameRead]

/-- A task does the same in any two trees with the same template files, each below its own input
directory: it fails for the same reason, or completes with the same report and leaves the same
bytes in its output file. -/
theorem run_depends_on_templates (environment : Environment) {first second : FileTree}
    {firstBase secondBase : Location} (normal : options.outputPath.IsNormal)
    (ready : Ready options first firstBase) (readyToo : Ready options second secondBase)
    (same : ∀ names content, Template.IsFile options first firstBase names content ↔
      Template.IsFile options second secondBase names content) :
    let one := (run environment options).run first
    let other := (run environment options).run second
    (∃ failure, one.value = .error failure ∧ other.value = .error failure) ∨
      ∃ report content, one.value = .ok report ∧ other.value = .ok report ∧
        one.tree.read options.outputPath = .ok content ∧
        other.tree.read options.outputPath = .ok content := by
  intro one other
  cases available : environment.compiler.available with
  | error failure =>
      exact .inl ⟨failure, run_of_unavailable available options first,
        run_of_unavailable available options second⟩
  | ok _ =>
      rcases preamble : Assembling.effect (Bundle.preamble environment) (Bundle.start options) with
        ⟨failure | lines, bundle⟩
      · exact .inl ⟨failure, ready.run_of_preamble available preamble,
          readyToo.run_of_preamble available preamble⟩
      · obtain ⟨opened, made, location, executable, opening, outside⟩ := ready.opening preamble
        obtain ⟨openedToo, madeToo, locationToo, executableToo, openingToo, outsideToo⟩ :=
          readyToo.opening preamble
        have input := opening.inputAt ready normal outside
        have inputToo := openingToo.inputAt readyToo normal outsideToo
        have sameOpened (names : List String) (content : ByteArray) :
            Template.IsFile options opened firstBase names content ↔
              Template.IsFile options openedToo secondBase names content :=
          (opening.isFile_iff ready normal outside).trans ((same names content).trans
            (openingToo.isFile_iff readyToo normal outsideToo).symm)
        -- The same templates are found, and the attempts at them come to the same.
        obtain ⟨files, isFile, _, found⟩ := Template.discovered_files input
        have foundToo := (Template.discovered_same input inputToo fun names =>
          exists_congr (sameOpened names)).trans found
        have standing := fun names member => (isFile names).mp member
        have sameAttempts := attempts_same environment input inputToo standing sameOpened
        have standingToo : ∀ names ∈ files, ∃ content,
            Template.IsFile options openedToo secondBase names content := fun names member =>
          (exists_congr (sameOpened names)).mp (standing names member)
        obtain ⟨value, written⟩ :=
          opening.ends available found (opening.apart input outside standing)
        obtain ⟨valueToo, writtenToo⟩ :=
          openingToo.ends available foundToo (openingToo.apart inputToo outsideToo standingToo)
        rw [sameAttempts] at valueToo writtenToo
        generalize Bundle.progress environment bundle (attempts environment options opened
          (files.map (Template.ofNames options))) = progress at value valueToo written writtenToo
        cases outcome : progress.outcome with
        | error failure =>
            rw [outcome] at value valueToo
            exact .inl ⟨failure, value, valueToo⟩
        | ok last =>
            rw [outcome] at value valueToo
            exact .inr ⟨_, _, value, valueToo, written last outcome, writtenToo last outcome⟩

/-- The three templates again, in another order and behind a link to another directory, among a
directory, a link and a file that are no templates. No file is where the output goes. -/
def threeTemplatesElsewhere : FileTree where
  entries := [(["w"], .directory), (["w", "t"], .link "/s"), (["s"], .directory),
    (["s", "a.hbs"], .file "refuse".toUTF8 true), (["s", "d.hbs"], .directory),
    (["s", "d.hbs", "c.hbs"], .file "C".toUTF8 false), (["s", "l.hbs"], .link "a.hbs"),
    (["s", "n.txt"], .file "N".toUTF8 false), (["s", "_p.hbs"], .file "P".toUTF8 false),
    (["s", "b.hbs"], .file "B".toUTF8 false)]
  home := ["w"]

theorem threeTemplatesElsewhere_ready : Ready threeOptions threeTemplatesElsewhere ["s"] where
  wellFormed :=
    { distinct := by decide +kernel
      rooted := by decide +kernel
      named := by decide +kernel
      inside := by decide +kernel
      home := by decide +kernel }
  usable := by decide +kernel
  input := rfl
  output := ⟨threeTemplatesElsewhere, _, ["w", "out.js"], _, rfl, rfl, rfl, by decide⟩

theorem threeTemplates_ready : Ready threeOptions threeTemplates ["t"] where
  wellFormed := threeTemplates_wellFormed
  usable := by decide +kernel
  input := rfl
  output := ⟨threeTemplates, _, ["out.js"], _, rfl, rfl, rfl, by decide⟩

theorem run_depends_on_three_templates :
    ∃ content, ((run echo threeOptions).run threeTemplates).tree.read ⟨0, ["out.js"]⟩ =
        .ok content ∧
      ((run echo threeOptions).run threeTemplatesElsewhere).tree.read ⟨0, ["out.js"]⟩ =
        .ok content ∧
      ((run echo threeOptions).run threeTemplatesElsewhere).value =
        .ok ⟨⟨0, ["out.js"]⟩, 2, ["a.hbs"]⟩ := by
  have same (names : List String) (content : ByteArray) :
      Template.IsFile threeOptions threeTemplates ["t"] names content ↔
        Template.IsFile threeOptions threeTemplatesElsewhere ["s"] names content := by
    rw [← Template.mem_files threeTemplates_ready.wellFormed,
      ← Template.mem_files threeTemplatesElsewhere_ready.wellFormed]
    exact List.Perm.mem_iff (by decide +kernel)
  have completes : ((run echo threeOptions).run threeTemplates).value =
      .ok ⟨⟨0, ["out.js"]⟩, 2, ["a.hbs"]⟩ := ok_of_toOption (by decide +kernel)
  rcases run_depends_on_templates echo (by decide +kernel) threeTemplates_ready
      threeTemplatesElsewhere_ready same with
    ⟨failure, fails, _⟩ | ⟨report, content, value, valueToo, holds, holdsToo⟩
  · rw [completes] at fails
    simp at fails
  · rw [completes, Except.ok.injEq] at value
    rw [← value] at valueToo
    exact ⟨content, holds, holdsToo, valueToo⟩

end Task

end TemplateBundle
