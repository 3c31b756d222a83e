import Mathlib.Data.List.Induction
import TemplateBundle.Proofs.FileTree.Shuffling
import TemplateBundle.Proofs.FileTree.Sparing
import TemplateBundle.Proofs.Template.Discovery

/-!
Contract: the template files of a tree.

Owns: the directories that are reached from the input directory, the files with accepted names
that lie in them, that discovery finds each of these files once, in the order of their relative
paths, and that it does so in whatever order the directories name their entries.

Does not own: what becomes of the files that are found (`Proofs.Task`).
-/

namespace TemplateBundle

namespace FileTree

variable {tree : FileTree} {base : Location} {node : Node} {directory : List String}
  {name : String}

/-- A directory that is reached from another through directories alone, by the names on the way.
No link is followed. -/
inductive Reached (tree : FileTree) (base : Location) : List String → Prop
  | start : tree.isDirectoryAt base = true → Reached tree base []
  | into {directory : List String} {name : String} : Reached tree base directory →
      tree.isDirectoryAt (base ++ directory ++ [name]) = true →
      Reached tree base (directory ++ [name])

/-- All directories above what stands below a directory are reached from it. -/
theorem WellFormed.reached (wellFormed : tree.WellFormed)
    (stands : tree.node? (base ++ (directory ++ [name])) = some node) :
    tree.Reached base directory := by
  induction directory using List.reverseRecOn generalizing name node with
  | nil => exact .start (wellFormed.above stands (by simp))
  | append_singleton directory last inductionHypothesis =>
      have inDirectory : tree.isDirectoryAt (base ++ (directory ++ [last])) = true := by
        rw [← List.append_assoc] at stands
        exact wellFormed.above stands (by simp)
      have reached := inductionHypothesis (isDirectoryAt_iff.mp inDirectory)
      rw [← List.append_assoc] at inDirectory
      exact .into reached inDirectory

end FileTree

namespace Template

variable {options : Options} {tree other : FileTree} {base : Location} {names : List String}
  {content : ByteArray}

/-- A name ends in an accepted way, and something stands before the ending. -/
def IsAccepted (extensions : List String) (name : String) : Prop :=
  ∃ extension ∈ extensions, ∃ stem, stem ≠ "" ∧ name = stem ++ extension

/-- A regular file that is a template: it has an accepted name, and lies directly in the input
directory, or, if the search goes into directories, in one that is reached from it. -/
inductive IsFile (options : Options) (tree : FileTree) (base : Location) :
    List String → ByteArray → Prop
  | lies {directory : List String} {name : String} {content : ByteArray} {executable : Bool} :
      tree.Reached base directory → directory = [] ∨ options.recursive = true →
      IsAccepted options.extensions name →
      tree.node? (base ++ (directory ++ [name])) = some (.file content executable) →
      IsFile options tree base (directory ++ [name]) content

/-- The input directory is at a location of a well-formed tree, and what stands below it can be
asked for. -/
structure InputAt (options : Options) (tree : FileTree) (base : Location) : Prop where
  wellFormed : tree.WellFormed
  usable : tree.UsableBelow base
  leads : tree.findNode options.inputDir = .ok (base, .directory)

/-- The template at some names below the input directory. -/
def ofNames (options : Options) (names : List String) : Template :=
  ofRelative options options.inputDir (String.intercalate "/" names)

theorem isTemplateName_iff {name : String} {extensions : List String} :
    isTemplateName name extensions = true ↔ IsAccepted extensions name := by
  unfold isTemplateName IsAccepted
  rw [List.any_eq_true]
  constructor
  · rintro ⟨extension, member, ends⟩
    rw [Bool.and_eq_true, List.isSuffixOf_iff_suffix, decide_eq_true_iff] at ends
    obtain ⟨⟨stem, whole⟩, longer⟩ := ends
    have joined : name = String.ofList stem ++ extension := by
      apply String.toList_inj.mp
      rw [String.toList_append, String.toList_ofList, whole]
    refine ⟨extension, member, String.ofList stem, ?_, joined⟩
    intro empty
    rw [empty, String.empty_append] at joined
    rw [joined] at longer
    exact absurd longer (Nat.lt_irrefl _)
  · rintro ⟨extension, member, stem, notEmpty, rfl⟩
    refine ⟨extension, member, ?_⟩
    rw [Bool.and_eq_true, List.isSuffixOf_iff_suffix, decide_eq_true_iff]
    refine ⟨⟨stem.toList, String.toList_append.symm⟩, ?_⟩
    have positive : 0 < stem.length := by
      rw [Nat.pos_iff_ne_zero, ne_eq, String.length_eq_zero_iff]
      exact notEmpty
    rw [String.length_append]
    omega

instance (extensions : List String) (name : String) : Decidable (IsAccepted extensions name) :=
  decidable_of_iff (isTemplateName name extensions = true) isTemplateName_iff

/-- A listed name is a template exactly if it is accepted and names a regular file. No listed name
is refused. -/
theorem choice_of_names {directory : List String} {name relative : String} {node : Node}
    (input : InputAt options tree base)
    (named : tree.Names base relative (directory ++ [name]) node) :
    choice options tree relative =
      if IsAccepted options.extensions name ∧ node.kind = .regular then .selected else .passed := by
  have last : (Path.ofString relative).name = name := by
    rw [named.text, Path.ofString_names named.some (named.isNames input.wellFormed)]
    simp [Path.name]
  have kind := named.inspect input.wellFormed input.leads
    (named.isUsable input.wellFormed input.usable input.leads)
  unfold choice
  rw [last, kind]
  by_cases accepted : IsAccepted options.extensions name
  · rw [if_pos (isTemplateName_iff.mpr accepted)]
    cases node <;> simp [Node.kind, accepted]
  · rw [if_neg (fun isName => accepted (isTemplateName_iff.mp isName))]
    simp [accepted]

/-- If no name is refused, the templates are those of the names that are selected. -/
theorem select_eq {listing : List String}
    (answered : ∀ relative ∈ listing, choice options tree relative ≠ .refused) :
    select options tree listing =
      .ok ((listing.filter fun relative => choice options tree relative = .selected).map
        (ofRelative options options.inputDir)) := by
  induction listing with
  | nil => rfl
  | cons relative rest inductionHypothesis =>
      have tail := inductionHypothesis fun other member =>
        answered other (List.mem_cons_of_mem _ member)
      rw [select_cons, tail]
      cases chosen : choice options tree relative with
      | selected =>
          rw [List.filter_cons_of_pos (by simp [chosen])]
          rfl
      | passed => rw [List.filter_cons_of_neg (by simp [chosen])]
      | refused => exact absurd chosen (answered relative (by simp))

/-- Two lists of texts in increasing order have the same texts only if they are equal. -/
theorem eq_of_increasing {α : Type} {text : α → String} {first second : List α}
    (increasing : first.Pairwise fun one other => text one < text other)
    (increasingToo : second.Pairwise fun one other => text one < text other)
    (same : ∀ item, item ∈ first ↔ item ∈ second) : first = second := by
  have nodup {items : List α} (ordered : items.Pairwise fun one other => text one < text other) :
      items.Nodup := ordered.imp fun less equal => by
    rw [equal] at less
    exact String.lt_irrefl _ less
  have permuted : first.Perm second :=
    (List.perm_ext_iff_of_nodup (nodup increasing) (nodup increasingToo)).mpr same
  exact List.Perm.eq_of_pairwise
    (fun _ _ _ _ less more => absurd more (String.lt_asymm less)) increasing increasingToo permuted

/-- A name that is listed and selected is that of a template file. -/
theorem isFile_of_selected {relative : String} {node : Node} (input : InputAt options tree base)
    (named : tree.Names base relative names node)
    (sought : FileTree.IsSought options.recursive names node)
    (selected : choice options tree relative = .selected) :
    ∃ content, IsFile options tree base names content := by
  obtain ⟨directory, name, rfl⟩ := named.split
  rw [choice_of_names input named] at selected
  by_cases isTemplate : IsAccepted options.extensions name ∧ node.kind = .regular
  · have stands := named.stands input.wellFormed
    obtain ⟨content, executable, rfl⟩ : ∃ content executable, node = .file content executable := by
      cases node with
      | file content executable => exact ⟨content, executable, rfl⟩
      | _ => exact absurd isTemplate.2 (by simp [Node.kind])
    refine ⟨content, .lies (input.wellFormed.reached stands) ?_ isTemplate.1 stands⟩
    cases recursive : options.recursive with
    | true => exact .inr rfl
    | false =>
        rw [recursive] at sought
        have single : (directory ++ [name]).length = 1 := sought
        exact .inl (List.length_eq_zero_iff.mp (by simpa using single))
  · rw [if_neg isTemplate] at selected
    exact absurd selected (by simp)

theorem IsFile.named (isFile : IsFile options tree base names content) :
    ∃ executable, tree.Names base (String.intercalate "/" names) names
      (.file content executable) := by
  cases isFile with
  | lies reached searched accepted stands =>
      exact ⟨_, by simp, rfl, FileTree.mem_entries_of_node? stands (by simp)⟩

/-- The template files, by their names below the input directory, with their bytes. -/
def files (options : Options) (tree : FileTree) (base : Location) :
    List (List String × ByteArray) :=
  tree.entries.filterMap fun entry =>
    match FileTree.below? base entry.1, entry.2 with
    | some names, .file content _ =>
        if (names.length = 1 ∨ options.recursive = true) ∧
            IsAccepted options.extensions (names.getLast?.getD "") then some (names, content)
        else none
    | _, _ => none

theorem mem_files (wellFormed : tree.WellFormed) :
    (names, content) ∈ files options tree base ↔ IsFile options tree base names content := by
  unfold files
  rw [List.mem_filterMap]
  constructor
  · rintro ⟨⟨location, node⟩, member, chosen⟩
    dsimp only at chosen
    split at chosen
    · rename_i others bytes executable below
      obtain ⟨some, rfl⟩ := FileTree.below?_eq_some.mp below
      split at chosen
      · rename_i searched
        obtain ⟨rfl, rfl⟩ := Prod.mk.inj (Option.some.inj chosen)
        obtain ⟨directory, name, rfl⟩ : ∃ directory name, others = directory ++ [name] :=
          ⟨others.dropLast, others.getLast some, (List.dropLast_concat_getLast some).symm⟩
        have stands := wellFormed.node?_of_mem member
        refine .lies (wellFormed.reached stands) ?_ (by simpa using searched.2) stands
        simpa using searched.1
      · simp at chosen
    · simp at chosen
  · intro isFile
    obtain ⟨executable, named⟩ := isFile.named
    refine ⟨_, named.entry, ?_⟩
    cases isFile with
    | lies reached searched accepted stands =>
        rw [FileTree.below?_eq_some.mpr ⟨named.some, rfl⟩]
        exact if_pos ⟨by simpa using searched, by simpa using accepted⟩

/-- A template file is listed and selected. -/
theorem IsFile.selected (isFile : IsFile options tree base names content)
    (input : InputAt options tree base) :
    String.intercalate "/" names ∈ tree.listing options.recursive base ∧
      choice options tree (String.intercalate "/" names) = .selected := by
  obtain ⟨executable, named⟩ := isFile.named
  cases isFile with
  | lies reached searched accepted stands =>
      constructor
      · refine (FileTree.mem_listing_iff input.wellFormed).mpr ⟨_, _, named, ?_⟩
        cases recursive : options.recursive with
        | true => rfl
        | false =>
            rw [recursive] at searched
            obtain rfl := searched.resolve_right (by simp)
            rfl
      · rw [choice_of_names input named]
        exact if_pos ⟨accepted, rfl⟩

/-- The relative paths that are listed and selected, in their order. -/
def selectedNames (options : Options) (tree : FileTree) (base : Location) : List String :=
  (sortNames (tree.listing options.recursive base)).filter fun relative =>
    choice options tree relative = .selected

/-- A selected path is that of a template file, whose names are the pieces of the path. -/
theorem isFile_of_mem_selectedNames {relative : String} (input : InputAt options tree base)
    (member : relative ∈ selectedNames options tree base) :
    String.intercalate "/" (Text.pieces '/' relative) = relative ∧
      ∃ content, IsFile options tree base (Text.pieces '/' relative) content := by
  obtain ⟨inListing, isSelected⟩ := List.mem_filter.mp member
  obtain ⟨names, node, named, sought⟩ := FileTree.names_of_listed (mem_sortNames inListing)
  obtain ⟨content, isFile⟩ := isFile_of_selected input named sought (of_decide_eq_true isSelected)
  rw [named.pieces input.wellFormed]
  exact ⟨named.text.symm, content, isFile⟩

theorem IsFile.mem_selectedNames (isFile : IsFile options tree base names content)
    (input : InputAt options tree base) :
    String.intercalate "/" names ∈ selectedNames options tree base := by
  obtain ⟨listed, isSelected⟩ := isFile.selected input
  have inSorted := (sortNames_perm (tree.listing options.recursive base)).mem_iff.mpr listed
  exact List.mem_filter.mpr ⟨inSorted, decide_eq_true isSelected⟩

theorem selectedNames_increasing (input : InputAt options tree base) :
    (selectedNames options tree base).Pairwise (· < ·) :=
  (sortNames_increasing (FileTree.listing_nodup input.wellFormed options.recursive base)).filter _

theorem discovered_selectedNames (input : InputAt options tree base) :
    discovered options tree =
      .ok ((selectedNames options tree base).map (ofRelative options options.inputDir)) := by
  have answered : ∀ relative ∈ sortNames (tree.listing options.recursive base),
      choice options tree relative ≠ .refused := by
    intro relative member
    obtain ⟨names, node, named, _⟩ := FileTree.names_of_listed (mem_sortNames member)
    obtain ⟨directory, name, rfl⟩ := named.split
    rw [choice_of_names input named]
    split <;> simp
  unfold discovered
  rw [FileTree.list_of_findNode input.leads]
  exact select_eq answered

/-- Discovery finds each template file of a tree once, in the order of the relative paths. -/
theorem discovered_files (input : InputAt options tree base) :
    ∃ files : List (List String),
      (∀ names, names ∈ files ↔ ∃ content, IsFile options tree base names content) ∧
      (files.Pairwise fun first second =>
        String.intercalate "/" first < String.intercalate "/" second) ∧
      discovered options tree = .ok (files.map (ofNames options)) := by
  refine ⟨(selectedNames options tree base).map (Text.pieces '/'), fun names => ?_, ?_, ?_⟩
  · rw [List.mem_map]
    constructor
    · rintro ⟨relative, member, rfl⟩
      exact (isFile_of_mem_selectedNames input member).2
    · rintro ⟨content, isFile⟩
      obtain ⟨executable, named⟩ := isFile.named
      exact ⟨_, isFile.mem_selectedNames input, named.pieces input.wellFormed⟩
  · rw [List.pairwise_map]
    refine (selectedNames_increasing input).imp_of_mem fun inFirst inSecond less => ?_
    rw [(isFile_of_mem_selectedNames input inFirst).1,
      (isFile_of_mem_selectedNames input inSecond).1]
    exact less
  · rw [discovered_selectedNames input, List.map_map]
    refine congrArg Except.ok (List.map_congr_left fun relative member => ?_)
    exact congrArg (ofRelative options options.inputDir)
      (isFile_of_mem_selectedNames input member).1.symm

/-! ### Two trees -/

/-- Two trees with the same template files, each below its own input directory, have the same
templates. -/
theorem discovered_same {otherBase : Location} (input : InputAt options tree base)
    (inputToo : InputAt options other otherBase)
    (same : ∀ names, (∃ content, IsFile options tree base names content) ↔
      ∃ content, IsFile options other otherBase names content) :
    discovered options other = discovered options tree := by
  obtain ⟨files, exact_, increasing, found⟩ := discovered_files input
  obtain ⟨others, exactToo, increasingToo, foundToo⟩ := discovered_files inputToo
  have sameFiles : others = files := eq_of_increasing increasingToo increasing fun names =>
    (exactToo names).trans ((same names).symm.trans (exact_ names).symm)
  rw [found, foundToo, sameFiles]

/-- Template files are those of another tree in which all files below the input directory stand. -/
theorem IsFile.of_files (wellFormed : other.WellFormed)
    (kept : ∀ names content executable,
      tree.node? (base ++ names) = some (.file content executable) →
        other.node? (base ++ names) = some (.file content executable))
    (isFile : IsFile options tree base names content) :
    IsFile options other base names content := by
  cases isFile with
  | lies reached searched accepted stands =>
      have standing := kept _ _ _ stands
      exact .lies (wellFormed.reached standing) searched accepted standing

/-- The file of a template is read at its path. -/
theorem IsFile.findNode (isFile : IsFile options tree base names content)
    (input : InputAt options tree base) :
    ∃ executable, tree.findNode (ofNames options names).path =
      .ok (base ++ names, .file content executable) := by
  obtain ⟨executable, named⟩ := isFile.named
  have usable := named.isUsable input.wellFormed input.usable input.leads
  have toFile := named.find input.wellFormed input.leads usable
  exact ⟨executable,
    FileTree.findNode_of_find (FileTree.find_behindLink_of_atLink toFile (by simp))⟩

/-- Discovery in a tree whose input directory is there finds one template for each template file,
no other, and in strictly increasing order of the relative paths. It leaves the tree as it is, and
the order in which directories name their entries makes no difference. -/
theorem discover_finds_files (wellFormed : tree.WellFormed) (usable : tree.NamesUsable)
    (leads : tree.findNode options.inputDir = .ok (base, .directory)) :
    ∃ files : List (List String),
      (∀ names, names ∈ files ↔ ∃ content, IsFile options tree base names content) ∧
      (files.Pairwise fun first second =>
        String.intercalate "/" first < String.intercalate "/" second) ∧
      Work.effect (discover options) tree = (.ok (files.map (ofNames options)), tree) ∧
      ∀ shuffled, tree.Shuffles shuffled →
        Work.effect (discover options) shuffled =
          (.ok (files.map (ofNames options)), shuffled) := by
  obtain ⟨files, exact_, increasing, found⟩ :=
    discovered_files (InputAt.mk wellFormed (usable.below base) leads)
  refine ⟨files, exact_, increasing, ?_, fun shuffled shuffles => ?_⟩
  · rw [discover_effect, found]
  · have shuffledWellFormed := shuffles.wellFormed wellFormed
    have sameNodes := shuffles.node? wellFormed
    have sameTemplates : discovered options shuffled = discovered options tree := by
      refine discovered_same ⟨wellFormed, usable.below base, leads⟩
        ⟨shuffledWellFormed, (shuffles.namesUsable usable).below base,
          FileTree.findNode_directory_grows (shuffles.grows wellFormed) leads⟩ fun names => ?_
      constructor
      · rintro ⟨content, isFile⟩
        exact ⟨content, isFile.of_files shuffledWellFormed fun _ _ _ stands =>
          (sameNodes _).trans stands⟩
      · rintro ⟨content, isFile⟩
        exact ⟨content, isFile.of_files wellFormed fun _ _ _ stands =>
          (sameNodes _).symm.trans stands⟩
    rw [discover_effect, sameTemplates, found]

/-- A directory with a template, one more in a directory that is named like a template, a link to a
template, a link in a circle, a pipe, and a name that is an ending alone. -/
def mixedFiles : FileTree where
  entries := [(["t"], .directory), (["t", "d.hbs"], .directory), (["t", "b.hbs"], .link "c.hbs"),
    (["t", "c.hbs"], .file "C".toUTF8 false), (["t", "circle"], .link "."),
    (["t", "d.hbs", "a.hbs"], .file "A".toUTF8 false), (["t", "p.hbs"], .pipe),
    (["t", ".hbs"], .file "ending".toUTF8 false)]
  home := []

theorem mixedFiles_wellFormed : mixedFiles.WellFormed where
  distinct := by decide +kernel
  rooted := by decide +kernel
  named := by decide +kernel
  inside := by decide +kernel
  home := by decide +kernel

theorem discover_finds_files_of_mixed_tree :
    let options : Options := { inputDir := ⟨0, ["t"]⟩, recursive := true }
    (∀ relative, relative ∈ ["c.hbs", "d.hbs/a.hbs"] ↔ ∃ names content,
        relative = String.intercalate "/" names ∧ IsFile options mixedFiles ["t"] names content) ∧
      ∀ shuffled, mixedFiles.Shuffles shuffled →
        (Work.effect (discover options) shuffled).1 =
          .ok [⟨⟨0, ["t", "c.hbs"]⟩, "c.hbs", "c", false⟩,
            ⟨⟨0, ["t", "d.hbs", "a.hbs"]⟩, "d.hbs/a.hbs", "a", false⟩] := by
  intro options
  have leads : mixedFiles.findNode options.inputDir = .ok (["t"], .directory) := rfl
  obtain ⟨files, isFile, _, found, foundToo⟩ :=
    discover_finds_files mixedFiles_wellFormed (by decide +kernel) leads
  have value : (Work.effect (discover options) mixedFiles).1 =
      .ok [⟨⟨0, ["t", "c.hbs"]⟩, "c.hbs", "c", false⟩,
        ⟨⟨0, ["t", "d.hbs", "a.hbs"]⟩, "d.hbs/a.hbs", "a", false⟩] :=
    ok_of_toOption (by decide +kernel)
  rw [found] at value
  have templates := Except.ok.inj value
  constructor
  · have relatives : files.map (String.intercalate "/") = ["c.hbs", "d.hbs/a.hbs"] := by
      have mapped := congrArg (List.map Template.relative) templates
      rw [List.map_map] at mapped
      exact mapped
    intro relative
    rw [← relatives, List.mem_map]
    constructor
    · rintro ⟨names, member, rfl⟩
      obtain ⟨content, standing⟩ := (isFile names).mp member
      exact ⟨names, content, rfl, standing⟩
    · rintro ⟨names, content, rfl, standing⟩
      exact ⟨names, (isFile names).mpr ⟨content, standing⟩, rfl⟩
  · intro shuffled shuffles
    rw [foundToo shuffled shuffles, templates]

end Template

end TemplateBundle
