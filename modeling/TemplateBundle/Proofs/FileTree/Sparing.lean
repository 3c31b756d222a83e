import TemplateBundle.Proofs.FileTree.Content
import TemplateBundle.Proofs.FileTree.Directories

/-!
Contract: a tree in which everything is left as it was, but for one location and the directories
on the way to a directory.

Owns: such trees, and that making a directory with those above it and writing a file leaves one.

A directory is on the way to another if the beginning of a path to that one leads to it. This
takes in directories that the path leaves again.
-/

namespace TemplateBundle.FileTree

variable {tree before after : FileTree} {path directory : Path} {location : Location}
  {executable : Bool}

/-- All nodes are kept but for the one at a location that is touched, if any is, and what is new
elsewhere is a directory on the way to the directory of a path. -/
structure Spares (before : FileTree) (directory : Path) (touched : Option Location)
    (after : FileTree) : Prop where
  home : after.home = before.home
  kept : ∀ location node, touched ≠ some location → before.node? location = some node →
    after.node? location = some node
  added : ∀ location node, touched ≠ some location → before.node? location = none →
    after.node? location = some node → node = .directory ∧
      ∃ upper, upper <+: directory.parts ∧
        after.findNode ⟨directory.slashes, upper⟩ = .ok (location, .directory)

theorem Spares.refl (tree : FileTree) (directory : Path) :
    tree.Spares directory none tree where
  home := rfl
  kept := fun _ _ _ stands => stands
  added := by
    intro location node _ absent stands
    rw [absent] at stands
    simp at stands

/-- A directory that is led to stays so, in a tree that grows. -/
theorem findNode_directory_grows (grows : Grows before after)
    (leads : before.findNode path = .ok (location, .directory)) :
    after.findNode path = .ok (location, .directory) := by
  obtain ⟨later, leadsLater, same⟩ := findNode_grows grows leads
  rwa [shape_eq_directory same] at leadsLater

/-- A directory is made on the way. -/
theorem Spares.set_directory {upper : List String} (spares : before.Spares directory none after)
    (inside : upper <+: directory.parts)
    (vacant : after.find .atLink ⟨directory.slashes, upper⟩ = .ok (.vacant location)) :
    before.Spares directory none (after.set location .directory) := by
  have absent := vacant_of_find vacant
  have notRoot := ne_root_of_vacant absent
  have grows : Grows after (after.set location .directory) :=
    grows_set notRoot (by simp) (by simp [absent])
  refine ⟨spares.home, ?_, ?_⟩
  · intro other node untouched stands
    have standsAfter := spares.kept other node untouched stands
    have different : other ≠ location := by
      rintro rfl
      rw [absent] at standsAfter
      simp at standsAfter
    rw [node?_set_other notRoot different]
    exact standsAfter
  · intro other node untouched absentBefore stands
    by_cases here : other = location
    · subst here
      rw [node?_set_same notRoot] at stands
      have found := find_grows grows (find_behindLink_of_atLink vacant (by simp))
      rw [Place.location, placeAt_of_node (node?_set_same notRoot)] at found
      exact ⟨(Option.some.inj stands).symm, upper, inside, findNode_of_find found⟩
    · rw [node?_set_other notRoot here] at stands
      obtain ⟨isDirectory, other, inside, leads⟩ := spares.added other node untouched absentBefore
        stands
      exact ⟨isDirectory, other, inside, findNode_directory_grows grows leads⟩

theorem makeDirectories_spares (tree : FileTree) {upper : List String}
    (inside : upper <+: directory.parts) :
    tree.Spares directory none (tree.makeDirectories ⟨directory.slashes, upper⟩).2 := by
  unfold makeDirectories
  refine makeDirectoriesUp_preserves (tree.Spares directory none) ?_ (.refl tree directory)
  rintro middle ⟨slashes, parts⟩ location within rfl spares vacant
  exact spares.set_directory ((List.reverse_suffix.mp within).trans inside) vacant

/-- A file is written. -/
theorem Spares.holding (spares : before.Spares directory none after)
    (writes : after.WritesTo path location executable) (text : String) :
    before.Spares directory (some location) (after.holding location executable text) := by
  have grows : Grows after (after.holding location executable text) :=
    grows_holding writes.notRoot writes.fileOrFree text
  refine ⟨spares.home, ?_, ?_⟩
  · intro other node untouched stands
    rw [writes.node?_holding, if_neg fun same => untouched (congrArg some same.symm)]
    exact spares.kept other node (by simp) stands
  · intro other node untouched absent stands
    rw [writes.node?_holding, if_neg fun same => untouched (congrArg some same.symm)] at stands
    obtain ⟨isDirectory, upper, inside, leads⟩ := spares.added other node (by simp) absent stands
    exact ⟨isDirectory, upper, inside, findNode_directory_grows grows leads⟩

section Untouched

variable {content : ByteArray}

/-- If nothing is touched, a file is one that was there before. -/
theorem Spares.file_before (spares : before.Spares directory none after)
    (stands : after.node? location = some (.file content executable)) :
    before.node? location = some (.file content executable) := by
  cases standing : before.node? location with
  | none =>
      obtain ⟨isDirectory, _⟩ := spares.added location _ (by simp) standing stands
      simp at isDirectory
  | some node =>
      have kept := spares.kept location node (by simp) standing
      rw [← kept, stands]

theorem Spares.grows (spares : before.Spares directory none after) : Grows before after where
  home := spares.home
  kept := fun location node stands => ⟨node, spares.kept location node (by simp) stands, rfl⟩
  added := by
    intro location target stands absent
    obtain ⟨isDirectory, _⟩ := spares.added location _ (by simp) absent stands
    simp at isDirectory

end Untouched

end TemplateBundle.FileTree
