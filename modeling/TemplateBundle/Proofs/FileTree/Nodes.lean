import TemplateBundle.FileTree.Basic

/-!
Contract: the nodes of a tree after a node is set, and trees that grow.

Owns: the node at each location of a changed tree, the entries that a listing reads from it,
and the order of trees by growth: nothing that stands goes away or changes its kind, and
nothing that is added is a link.
-/

namespace TemplateBundle

/-- The node without the bytes it holds. -/
def Node.shape : Node → Node
  | .file _ _ => .file ByteArray.empty false
  | node => node

/-- The location of a place. -/
def Place.location : Place → Location
  | .occupied location _ => location
  | .vacant location => location

namespace FileTree

variable {tree before after : FileTree} {location other : Location} {node : Node}

theorem node?_root (tree : FileTree) : tree.node? [] = some .directory := rfl

theorem ne_root_of_vacant (vacant : tree.node? location = none) : location ≠ [] := by
  rintro rfl
  simp [node?_root] at vacant

theorem isDirectoryAt_iff : tree.isDirectoryAt location = true ↔
    tree.node? location = some .directory := by
  unfold isDirectoryAt
  cases tree.node? location with
  | none => simp
  | some found => cases found <;> simp [Node.isDirectory, Node.kind]

theorem isDirectoryAt_root (tree : FileTree) : tree.isDirectoryAt [] = true :=
  isDirectoryAt_iff.mpr rfl

/-! ### Setting a node -/

private theorem find?_setEntries (entries : List (Location × Node)) :
    ((setEntries entries location node).find? fun entry => entry.1 == other) =
      if other = location then
        some (((entries.find? fun entry => entry.1 == other).map Prod.fst).getD location, node)
      else entries.find? fun entry => entry.1 == other := by
  induction entries with
  | nil =>
      by_cases same : other = location
      · simp [setEntries, same]
      · simp [setEntries, same, Ne.symm same]
  | cons entry rest inductionHypothesis =>
      obtain ⟨present, old⟩ := entry
      by_cases here : present = location
      · subst here
        by_cases same : other = present
        · simp [setEntries, same]
        · simp [setEntries, same, Ne.symm same]
      · by_cases found : present = other
        · subst found
          simp [setEntries, here]
        · simp [setEntries, here, found, inductionHypothesis]

theorem node?_set (notRoot : location ≠ []) :
    (tree.set location node).node? other =
      if other = location then some node else tree.node? other := by
  unfold FileTree.set node?
  by_cases isRoot : other = []
  · subst isRoot
    simp [Ne.symm notRoot]
  · simp only [if_neg isRoot, find?_setEntries]
    by_cases same : other = location
    · simp [same]
    · simp [same]

theorem node?_set_same (notRoot : location ≠ []) :
    (tree.set location node).node? location = some node := by
  rw [node?_set notRoot, if_pos rfl]

theorem node?_set_other (notRoot : location ≠ []) (different : other ≠ location) :
    (tree.set location node).node? other = tree.node? other := by
  rw [node?_set notRoot, if_neg different]

private theorem setEntries_twice (entries : List (Location × Node)) (first second : Node) :
    setEntries (setEntries entries location first) location second =
      setEntries entries location second := by
  induction entries with
  | nil => simp [setEntries]
  | cons entry rest inductionHypothesis =>
      obtain ⟨present, old⟩ := entry
      by_cases here : present = location
      · simp [setEntries, here]
      · simp [setEntries, here, inductionHypothesis]

/-- Of two nodes set at one location the second stays. -/
theorem set_twice (tree : FileTree) (location : Location) (first second : Node) :
    (tree.set location first).set location second = tree.set location second := by
  simp [FileTree.set, setEntries_twice]

private theorem filterMap_setEntries {α : Type} (reading : Location × Node → Option α)
    (entries : List (Location × Node))
    (same : ∀ old, (entries.find? fun entry => entry.1 == location).map Prod.snd = some old →
      reading (location, old) = reading (location, node))
    (silent : (entries.find? fun entry => entry.1 == location) = none →
      reading (location, node) = none) :
    (setEntries entries location node).filterMap reading = entries.filterMap reading := by
  induction entries with
  | nil => simp [setEntries, silent rfl]
  | cons entry rest inductionHypothesis =>
      obtain ⟨present, old⟩ := entry
      by_cases here : present = location
      · subst here
        have unchanged := same old (by simp)
        simp [setEntries, List.filterMap_cons, unchanged]
      · have tail := inductionHypothesis
          (fun old found => same old (by simpa [here] using found))
          (fun absent => silent (by simpa [here] using absent))
        simp [setEntries, here, List.filterMap_cons, tail]

/-- What is read from the entries stays when the node set reads like the one it replaces, or,
where none was, like nothing. -/
theorem filterMap_entries_set {α : Type} (reading : Location × Node → Option α)
    (notRoot : location ≠ [])
    (same : ∀ old, tree.node? location = some old →
      reading (location, old) = reading (location, node))
    (silent : tree.node? location = none → reading (location, node) = none) :
    (tree.set location node).entries.filterMap reading = tree.entries.filterMap reading := by
  unfold node? at same silent
  rw [if_neg notRoot] at same silent
  exact filterMap_setEntries reading tree.entries same (fun absent => silent (by simp [absent]))

/-! ### Growth -/

/-- What stands in the first tree stands in the second one, files perhaps with other bytes,
and no link is added. -/
structure Grows (before after : FileTree) : Prop where
  home : after.home = before.home
  kept : ∀ location node, before.node? location = some node →
    ∃ later, after.node? location = some later ∧ later.shape = node.shape
  added : ∀ location target, after.node? location = some (.link target) →
    before.node? location ≠ none

theorem shape_eq_directory {node : Node} (same : node.shape = .directory) :
    node = .directory := by
  cases node <;> simp_all [Node.shape]

theorem shape_eq_link {node : Node} {target : String} (same : node.shape = .link target) :
    node = .link target := by
  cases node <;> simp_all [Node.shape]

theorem shape_eq_file {node : Node} {content : ByteArray} {executable : Bool}
    (same : node.shape = (Node.file content executable).shape) :
    ∃ bytes flag, node = .file bytes flag := by
  cases node <;> simp_all [Node.shape]

theorem kind_eq_of_shape {first second : Node} (same : first.shape = second.shape) :
    first.kind = second.kind := by
  cases first <;> cases second <;> simp_all [Node.shape, Node.kind]

namespace Grows

theorem refl (tree : FileTree) : Grows tree tree where
  home := rfl
  kept := fun _ node stands => ⟨node, stands, rfl⟩
  added := fun _ _ stands => by simp [stands]

theorem trans {first second third : FileTree} (lower : Grows first second)
    (upper : Grows second third) : Grows first third where
  home := upper.home.trans lower.home
  kept := by
    intro location node stands
    obtain ⟨middle, standsMiddle, sameMiddle⟩ := lower.kept location node stands
    obtain ⟨later, standsLater, sameLater⟩ := upper.kept location middle standsMiddle
    exact ⟨later, standsLater, sameLater.trans sameMiddle⟩
  added := by
    intro location target stands absent
    rcases middle : second.node? location with _ | found
    · exact upper.added location target stands middle
    · obtain ⟨later, standsLater, sameLater⟩ := upper.kept location found middle
      rw [stands] at standsLater
      obtain rfl := Option.some.inj standsLater
      rw [shape_eq_link sameLater.symm] at middle
      exact lower.added location target middle absent

theorem directory (grows : Grows before after)
    (stands : before.node? location = some .directory) :
    after.node? location = some .directory := by
  obtain ⟨later, standsLater, same⟩ := grows.kept location _ stands
  rw [standsLater, shape_eq_directory same]

theorem isDirectoryAt (grows : Grows before after)
    (stands : before.isDirectoryAt location = true) : after.isDirectoryAt location = true :=
  isDirectoryAt_iff.mpr (grows.directory (isDirectoryAt_iff.mp stands))

theorem link (grows : Grows before after) {target : String}
    (stands : before.node? location = some (.link target)) :
    after.node? location = some (.link target) := by
  obtain ⟨later, standsLater, same⟩ := grows.kept location _ stands
  rw [standsLater, shape_eq_link same]

theorem file (grows : Grows before after) {content : ByteArray} {executable : Bool}
    (stands : before.node? location = some (.file content executable)) :
    ∃ bytes flag, after.node? location = some (.file bytes flag) := by
  obtain ⟨later, standsLater, same⟩ := grows.kept location _ stands
  obtain ⟨bytes, flag, rfl⟩ := shape_eq_file same
  exact ⟨bytes, flag, standsLater⟩

/-- A node that stands and is no directory is none later either. -/
theorem notDirectory (grows : Grows before after) (stands : before.node? location ≠ none)
    (no : before.isDirectoryAt location = false) : after.isDirectoryAt location = false := by
  cases found : before.node? location with
  | none => exact absurd found stands
  | some node =>
      obtain ⟨later, standsLater, same⟩ := grows.kept location node found
      rw [← Bool.not_eq_true, isDirectoryAt_iff, standsLater]
      rw [← Bool.not_eq_true, isDirectoryAt_iff, found] at no
      intro isDirectory
      obtain rfl := Option.some.inj isDirectory
      exact no (by rw [shape_eq_directory same.symm])

end Grows

/-- A node set where none stood, or in place of one of its shape, lets the tree grow. -/
theorem grows_set (notRoot : location ≠ []) (notLink : ∀ target, node ≠ .link target)
    (fits : ∀ old, tree.node? location = some old → node.shape = old.shape) :
    Grows tree (tree.set location node) where
  home := rfl
  kept := by
    intro place old stands
    rw [node?_set notRoot]
    by_cases same : place = location
    · subst same
      exact ⟨node, by simp, fits old stands⟩
    · exact ⟨old, by simp [same, stands], rfl⟩
  added := by
    intro place target stands absent
    rw [node?_set notRoot] at stands
    by_cases same : place = location
    · simp only [same, if_true, Option.some.injEq] at stands
      exact notLink target stands
    · simp [same, absent] at stands

end FileTree

end TemplateBundle
