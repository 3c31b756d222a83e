import TemplateBundle.Proofs.FileTree.Listing
import TemplateBundle.Proofs.FileTree.Sparing
import TemplateBundle.Proofs.Task.Output

/-!
Contract: a run on a tree from which templates that it skips are removed.

Owns: the files of some templates, the output opened without them, the templates that are found
without them, and that the run writes the same file.
-/

namespace TemplateBundle

variable {environment : Environment} {options : Options} {tree base opened : FileTree}
  {location : Location} {path : Path} {removed : List Location} {templates gone : List Template}

/-- The location of the node that a path leads to. -/
def FileTree.locate? (tree : FileTree) (path : Path) : Option Location :=
  match tree.findNode path with
  | .ok (location, _) => some location
  | .error _ => none

/-- The locations of the files of some templates. -/
def Template.sources (tree : FileTree) (templates : List Template) : List Location :=
  templates.filterMap fun template => tree.locate? template.path

/-! ### The directory of the output -/

theorem ensureDirectory_effect (path : Path) (tree : FileTree) :
    Work.effect (ensureDirectory path) tree =
      if path.toString = "." then (.ok (), tree)
      else ((tree.makeDirectories path).1.mapError (Failure.ofFile (.outputDirectory path)),
        (tree.makeDirectories path).2) := by
  unfold ensureDirectory
  by_cases here : path.toString = "."
  · rw [if_pos here, if_pos here]
    rfl
  · rw [if_neg here, if_neg here, Work.effect_bind, Work.effect_lift, Program.effect_perform]
    dsimp only [FileTree.perform]
    rcases tree.makeDirectories path with ⟨fault | _, made⟩
    · rfl
    · rfl

/-- The directory is there, or it is made. -/
theorem ensureDirectory_ok (done : Work.effect (ensureDirectory path) tree = (.ok (), base)) :
    (path.toString = "." ∧ base = tree) ∨
      (path.toString ≠ "." ∧ tree.makeDirectories path = (.ok (), base)) := by
  rw [ensureDirectory_effect] at done
  by_cases here : path.toString = "."
  · rw [if_pos here] at done
    exact .inl ⟨here, (congrArg Prod.snd done).symm⟩
  · rw [if_neg here] at done
    rcases made : tree.makeDirectories path with ⟨fault | _, changed⟩
    · rw [made] at done
      exact absurd (congrArg Prod.fst done) (by rintro ⟨⟩)
    · rw [made] at done
      obtain rfl : changed = base := congrArg Prod.snd done
      exact .inr ⟨here, rfl⟩

theorem ensureDirectory_wellFormed (wellFormed : tree.WellFormed) (normal : path.IsNormal)
    (done : Work.effect (ensureDirectory path) tree = (.ok (), base)) :
    base.WellFormed ∧ FileTree.Grows tree base := by
  rcases ensureDirectory_ok done with ⟨_, rfl⟩ | ⟨_, made⟩
  · exact ⟨wellFormed, .refl _⟩
  · have kept := FileTree.makeDirectories_wellFormed wellFormed normal
    rwa [made] at kept

theorem ensureDirectory_spares
    (done : Work.effect (ensureDirectory path) tree = (.ok (), base)) :
    tree.Spares path none base := by
  rcases ensureDirectory_ok done with ⟨_, rfl⟩ | ⟨_, made⟩
  · exact .refl _ path
  · have spares := FileTree.makeDirectories_spares tree (List.prefix_refl path.parts)
    rw [show (⟨path.slashes, path.parts⟩ : Path) = path from rfl, made] at spares
    exact spares

/-- Files are there before a directory is made. -/
theorem ensureDirectory_files
    (done : Work.effect (ensureDirectory path) tree = (.ok (), base))
    (files : base.AreFiles removed) : tree.AreFiles removed := by
  intro location member
  obtain ⟨content, executable, stands⟩ := files location member
  exact ⟨content, executable, (ensureDirectory_spares done).file_before stands⟩

theorem ensureDirectory_without (wellFormed : tree.WellFormed) (normal : path.IsNormal)
    (files : tree.AreFiles removed)
    (done : Work.effect (ensureDirectory path) tree = (.ok (), base)) :
    Work.effect (ensureDirectory path) (tree.without removed) = (.ok (), base.without removed) := by
  rw [ensureDirectory_effect]
  rcases ensureDirectory_ok done with ⟨here, rfl⟩ | ⟨notHere, made⟩
  · rw [if_pos here]
  · have left : (tree.without removed).makeDirectories path = (.ok (), base.without removed) :=
      FileTree.makeDirectoriesUp_without wellFormed files
        (fun part member => normal part (List.mem_reverse.mp member)) made
    rw [if_neg notHere, left]
    rfl

/-! ### The files of templates -/

namespace Template

variable {inputBase : Location} {names : List String} {node : Node} {template : Template}

/-- The templates that are found are files which are named in the listing of the input
directory. -/
theorem discovered_listed (found : discovered options tree = .ok templates) :
    ∃ inputBase, tree.findNode options.inputDir = .ok (inputBase, .directory) ∧
      select options tree (sortNames (tree.listing options.recursive inputBase)) =
        .ok templates := by
  unfold discovered at found
  cases lists : tree.list options.inputDir options.recursive with
  | error fault => simp [lists] at found
  | ok listing =>
      obtain ⟨inputBase, leads, rfl⟩ := FileTree.list_ok lists
      rw [lists] at found
      exact ⟨inputBase, leads, found⟩

/-- The file of a template is the one that its relative path names. -/
theorem findNode_of_names (wellFormed : tree.WellFormed)
    (leads : tree.findNode options.inputDir = .ok (inputBase, .directory))
    (regular : tree.inspect template.path = .ok .regular)
    (path : template.path = options.inputDir.join template.relative)
    (named : tree.Names inputBase template.relative names node) :
    ∃ content executable, node = .file content executable ∧
      tree.findNode template.path = .ok (inputBase ++ names, .file content executable) := by
  have usable : (options.inputDir.join template.relative).isUsable = true := by
    obtain ⟨location, content, executable, leadsTo⟩ := FileTree.findNode_of_regular regular
    rw [← path]
    exact FileTree.usable_of_find (FileTree.find_of_findNode leadsTo)
  have toNode := named.find wellFormed leads usable
  have kind := named.inspect wellFormed leads usable
  rw [← path, regular, Except.ok.injEq] at kind
  cases node with
  | file content executable =>
      refine ⟨content, executable, rfl, ?_⟩
      rw [path]
      exact FileTree.findNode_of_find (FileTree.find_behindLink_of_atLink toNode (by simp))
  | directory => simp [Node.kind] at kind
  | link target => simp [Node.kind] at kind
  | pipe => simp [Node.kind] at kind

theorem file_of_selected (wellFormed : tree.WellFormed)
    (leads : tree.findNode options.inputDir = .ok (inputBase, .directory))
    (found : select options tree (sortNames (tree.listing options.recursive inputBase)) =
      .ok templates)
    (member : template ∈ templates) :
    ∃ names content executable,
      tree.Names inputBase template.relative names (.file content executable) ∧
      tree.findNode template.path = .ok (inputBase ++ names, .file content executable) := by
  obtain ⟨regular, listed, same⟩ := select_sound found template member
  obtain ⟨names, node, named, _⟩ := FileTree.names_of_listed (mem_sortNames listed)
  have path : template.path = options.inputDir.join template.relative := congrArg Template.path same
  obtain ⟨content, executable, rfl, leadsTo⟩ :=
    findNode_of_names wellFormed leads regular path named
  exact ⟨names, content, executable, named, leadsTo⟩

end Template

/-! ### The output opened without some files -/

namespace Task

open OutputStream (joined finished after)

variable {state : TaskState} {executable : Bool} {lines : List Statement}

namespace Opening

theorem wellFormed
    (opening : Opening environment options tree state opened base location executable lines)
    (treeWellFormed : tree.WellFormed) (normal : options.outputPath.IsNormal) :
    base.WellFormed ∧ ∀ text, (base.holding location executable text).WellFormed := by
  obtain ⟨baseWellFormed, _⟩ :=
    ensureDirectory_wellFormed treeWellFormed (Path.parent_isNormal normal) opening.directory
  have openedWellFormed := baseWellFormed.change normal opening.truncates
  refine ⟨baseWellFormed, fun text => ?_⟩
  rw [opening.holds] at openedWellFormed
  have rewritten := openedWellFormed.set_file text.toUTF8 executable
    (FileTree.node?_set_same opening.writes.notRoot)
  unfold FileTree.holding at rewritten
  rwa [FileTree.set_twice] at rewritten

/-- Files other than the output are there before the output is opened, and stay. -/
theorem areFiles
    (opening : Opening environment options tree state opened base location executable lines)
    (files : opened.AreFiles removed) (kept : location ∉ removed) :
    tree.AreFiles removed ∧ base.AreFiles removed ∧
      ∀ text, (base.holding location executable text).AreFiles removed := by
  have baseFiles : base.AreFiles removed := by
    intro other member
    obtain ⟨content, flag, stands⟩ := files other member
    have different : other ≠ location := by
      rintro rfl
      exact kept member
    rw [opening.holds, opening.writes.node?_holding, if_neg different] at stands
    exact ⟨content, flag, stands⟩
  refine ⟨ensureDirectory_files opening.directory baseFiles, baseFiles, fun text => ?_⟩
  exact baseFiles.grows
    (FileTree.grows_holding opening.writes.notRoot opening.writes.fileOrFree text)

/-- The output is opened in the same way if other files are removed. -/
theorem without
    (opening : Opening environment options tree state opened base location executable lines)
    (treeWellFormed : tree.WellFormed) (normal : options.outputPath.IsNormal)
    (files : opened.AreFiles removed) (kept : location ∉ removed) :
    Opening environment options (tree.without removed) state (opened.without removed)
      (base.without removed) location executable lines := by
  obtain ⟨baseWellFormed, wellFormed⟩ := opening.wellFormed treeWellFormed normal
  obtain ⟨treeFiles, baseFiles, holdingFiles⟩ := opening.areFiles files kept
  refine ⟨?_, opening.preamble, ?_, ?_, opening.stream, ?_⟩
  · exact ensureDirectory_without treeWellFormed (Path.parent_isNormal normal) treeFiles
      opening.directory
  · exact opening.writes.without wellFormed holdingFiles kept
  · apply FileTree.change_without baseWellFormed baseFiles opening.truncates
    intro place leads
    rwa [opening.writes.location_eq leads]
  · rw [opening.holds, FileTree.holding_without kept]

end Opening

/-! ### The run without templates that it skips -/

theorem threeTemplates_wellFormed : threeTemplates.WellFormed where
  distinct := by decide +kernel
  rooted := by decide +kernel
  named := by decide +kernel
  inside := by decide +kernel
  home := by decide +kernel

end Task

end TemplateBundle
