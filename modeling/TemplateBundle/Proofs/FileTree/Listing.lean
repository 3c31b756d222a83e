import Mathlib.Data.List.Nodup
import TemplateBundle.FileTree.Listing
import TemplateBundle.Proofs.FileTree.Removal

/-!
Contract: the names in a directory.

Owns: which names are listed, that a listed name leads to the node it is listed for, and that the
listing of a tree from which files are removed is the one before without their names.
-/

namespace TemplateBundle.FileTree

variable {tree : FileTree} {base : Location} {path : Path} {recursive : Bool}
  {relative : String} {names listed : List String} {node : Node} {child : String × NodeKind}
  {removed : List Location}

/-- A relative path names a node below a directory. -/
structure Names (tree : FileTree) (base : Location) (relative : String) (names : List String)
    (node : Node) : Prop where
  some : names ≠ []
  text : relative = String.intercalate "/" names
  entry : (base ++ names, node) ∈ tree.entries

/-- Every name can be asked for: none holds a null character. -/
def NamesUsable (tree : FileTree) : Prop :=
  ∀ entry ∈ tree.entries, (⟨0, entry.1⟩ : Path).isUsable = true

instance (tree : FileTree) : Decidable tree.NamesUsable :=
  inferInstanceAs (Decidable (∀ entry ∈ tree.entries, (⟨0, entry.1⟩ : Path).isUsable = true))

/-- What stands below a directory can be asked for by its names. -/
def UsableBelow (tree : FileTree) (base : Location) : Prop :=
  ∀ names, tree.node? (base ++ names) ≠ none → (⟨0, names⟩ : Path).isUsable = true

theorem UsableBelow.into (usable : tree.UsableBelow []) (base : Location) :
    tree.UsableBelow base := by
  intro names stands
  exact (isUsable_append.mp (usable (base ++ names) stands)).2

theorem NamesUsable.below (usable : tree.NamesUsable) (base : Location) :
    tree.UsableBelow base := by
  refine UsableBelow.into ?_ base
  intro names stands
  rw [List.nil_append] at stands
  by_cases isRoot : names = []
  · rw [isRoot]
    rfl
  · obtain ⟨node, standing⟩ := Option.ne_none_iff_exists'.mp stands
    exact usable _ (mem_entries_of_node? standing isRoot)

/-- Directories that are made are named by the path. -/
theorem makeDirectories_usable (usable : tree.UsableBelow []) (path : Path) :
    (tree.makeDirectories path).2.UsableBelow [] := by
  refine makeDirectoriesUp_preserves (fun made => made.UsableBelow []) ?_ usable
  intro made way free within _ usableMade leads names stands
  have absent := vacant_of_find leads
  rw [List.nil_append, node?_set (ne_root_of_vacant absent)] at stands
  by_cases here : names = free
  · obtain ⟨parent, name, isFree, inPath, directory⟩ := vacant_of_find_atLink leads
    have usableParent := usableMade parent (by simp [isDirectoryAt_iff.mp directory])
    have usableWay := List.all_eq_true.mp (usable_of_find leads)
    rw [here, isFree, isUsable_append]
    exact ⟨usableParent, by simpa [Path.isUsable] using usableWay name inPath⟩
  · rw [if_neg here] at stands
    exact usableMade names stands

/-! ### What lies in a directory -/

theorem mem_children_iff : child ∈ tree.children base ↔
    ∃ node, (base ++ [child.1], node) ∈ tree.entries ∧ node.kind = child.2 := by
  unfold children
  rw [List.mem_filterMap]
  constructor
  · rintro ⟨⟨location, node⟩, member, isChild⟩
    obtain ⟨rfl, kind⟩ := child?_eq_some.mp isChild
    exact ⟨node, member, kind⟩
  · rintro ⟨node, member, kind⟩
    exact ⟨_, member, child?_eq_some.mpr ⟨rfl, kind⟩⟩

/-- No name is in a directory twice. -/
theorem children_distinct (wellFormed : tree.WellFormed) (base : Location) :
    (tree.children base).Pairwise fun one other => one.1 ≠ other.1 := by
  have distinct : tree.entries.Pairwise fun one other => one.1 ≠ other.1 :=
    List.pairwise_map.mp wellFormed.distinct
  refine distinct.filterMap _ fun one other different first isFirst second isSecond same => ?_
  have here := (child?_eq_some.mp isFirst).1
  have there := (child?_eq_some.mp isSecond).1
  exact different (by rw [here, there, same])

/-- What is listed for one name in a directory. -/
def namesUnder (tree : FileTree) (recursive : Bool) (base : Location)
    (child : String × NodeKind) : List (List String) :=
  if recursive = true ∧ child.2 = .directory then
    (tree.namesBelow recursive (base ++ [child.1])).map (child.1 :: ·)
  else [[child.1]]

theorem namesBelow_eq (tree : FileTree) (recursive : Bool) (base : Location) :
    tree.namesBelow recursive base =
      (tree.children base).flatMap (tree.namesUnder recursive base) := by
  rw [namesBelow, List.flatMap_subtype (g := tree.namesUnder recursive base) fun _ _ => rfl,
    List.unattach_attach]

theorem namesUnder_into (isDirectory : child.2 = .directory) :
    tree.namesUnder true base child =
      (tree.namesBelow true (base ++ [child.1])).map (child.1 :: ·) :=
  if_pos ⟨rfl, isDirectory⟩

theorem namesUnder_name (outside : ¬ (recursive = true ∧ child.2 = .directory)) :
    tree.namesUnder recursive base child = [[child.1]] :=
  if_neg outside

/-- Names that are listed for one name in a directory start with it. -/
theorem head?_of_namesUnder (member : names ∈ tree.namesUnder recursive base child) :
    names.head? = some child.1 := by
  unfold namesUnder at member
  split at member
  · obtain ⟨rest, _, rfl⟩ := List.mem_map.mp member
    rfl
  · rw [List.mem_singleton.mp member]
    rfl

/-- A node is one that a listing is to name: one directly in the directory, or, if the listing
goes into the directories below, any that is no directory. -/
def IsSought (recursive : Bool) (names : List String) (node : Node) : Prop :=
  if recursive then node.isDirectory = false else names.length = 1

/-- What is listed are the names of nodes that are to be named. -/
theorem sought_of_mem_namesBelow (member : names ∈ tree.namesBelow recursive base) :
    names ≠ [] ∧ ∃ node, (base ++ names, node) ∈ tree.entries ∧ IsSought recursive names node := by
  induction base using namesBelow.induct tree generalizing names with
  | case1 base inductionHypothesis =>
      rw [namesBelow_eq, List.mem_flatMap] at member
      obtain ⟨child, isChild, inside⟩ := member
      by_cases into : recursive = true ∧ child.2 = .directory
      · obtain ⟨rfl, isDirectory⟩ := into
        rw [namesUnder_into isDirectory] at inside
        obtain ⟨rest, below, rfl⟩ := List.mem_map.mp inside
        obtain ⟨_, node, entry, sought⟩ := inductionHypothesis ⟨child, isChild⟩ below
        rw [List.append_assoc] at entry
        exact ⟨List.cons_ne_nil _ _, node, entry, sought⟩
      · rw [namesUnder_name into] at inside
        obtain rfl := List.mem_singleton.mp inside
        obtain ⟨node, entry, kind⟩ := mem_children_iff.mp isChild
        refine ⟨List.cons_ne_nil _ _, node, entry, ?_⟩
        unfold IsSought
        cases recursive with
        | false => rfl
        | true => simpa [Node.isDirectory, kind] using into

/-- All nodes that are to be named are listed: the directories above each of them are gone
into. -/
theorem mem_namesBelow_of_sought (wellFormed : tree.WellFormed) (some : names ≠ [])
    (entry : (base ++ names, node) ∈ tree.entries) (sought : IsSought recursive names node) :
    names ∈ tree.namesBelow recursive base := by
  induction names generalizing base with
  | nil => exact absurd rfl some
  | cons name rest inductionHypothesis =>
      rw [namesBelow_eq, List.mem_flatMap]
      by_cases last : rest = []
      · subst last
        refine ⟨(name, node.kind), mem_children_iff.mpr ⟨node, entry, rfl⟩, ?_⟩
        rw [namesUnder_name]
        · exact List.mem_singleton.mpr rfl
        · rintro ⟨rfl, isDirectory⟩
          have notDirectory : node.kind ≠ .directory := by
            simpa [IsSought, Node.isDirectory] using sought
          exact notDirectory isDirectory
      · have whole : base ++ name :: rest = base ++ [name] ++ rest := by simp
        rw [whole] at entry
        have directory := wellFormed.above (wellFormed.node?_of_mem entry) last
        have inDirectory : (name, NodeKind.directory) ∈ tree.children base :=
          mem_children_iff.mpr ⟨.directory,
            mem_entries_of_node? (isDirectoryAt_iff.mp directory) (by simp), rfl⟩
        cases recursive with
        | false => simp [IsSought, last] at sought
        | true =>
            refine ⟨_, inDirectory, ?_⟩
            rw [namesUnder_into rfl]
            exact List.mem_map_of_mem (inductionHypothesis last entry sought)

/-- Nothing is listed twice. -/
theorem namesBelow_nodup (wellFormed : tree.WellFormed) (recursive : Bool) (base : Location) :
    (tree.namesBelow recursive base).Nodup := by
  induction base using namesBelow.induct tree with
  | case1 base inductionHypothesis =>
      rw [namesBelow_eq, List.nodup_flatMap]
      constructor
      · intro child isChild
        unfold namesUnder
        split
        · exact (inductionHypothesis ⟨child, isChild⟩).map List.cons_injective
        · exact List.nodup_singleton _
      · refine (children_distinct wellFormed base).imp fun different names here there => ?_
        have same := (head?_of_namesUnder here).symm.trans (head?_of_namesUnder there)
        exact different (Option.some.inj same)

/-- The same is listed in trees whose directories, from one on, name the same. -/
theorem namesBelow_congr {other : FileTree}
    (same : ∀ names, other.children (base ++ names) = tree.children (base ++ names)) :
    other.namesBelow recursive base = tree.namesBelow recursive base := by
  induction base using namesBelow.induct tree with
  | case1 base inductionHypothesis =>
      have here := same []
      rw [List.append_nil] at here
      rw [namesBelow_eq, namesBelow_eq, here]
      refine List.flatMap_congr fun child isChild => ?_
      unfold namesUnder
      rw [inductionHypothesis ⟨child, isChild⟩ fun names => ?_]
      rw [List.append_assoc]
      exact same _

theorem list_ok (succeeds : tree.list path recursive = .ok listed) :
    ∃ base, tree.findNode path = .ok (base, .directory) ∧
      listed = tree.listing recursive base := by
  unfold list at succeeds
  split at succeeds
  · rename_i base leads
    exact ⟨base, leads, (Except.ok.inj succeeds).symm⟩
  · simp at succeeds
  · simp at succeeds

theorem list_of_findNode (leads : tree.findNode path = .ok (base, .directory)) :
    tree.list path recursive = .ok (tree.listing recursive base) := by
  unfold list
  rw [leads]

theorem list_of_findNode_error {fault : FileFault} (fails : tree.findNode path = .error fault) :
    tree.list path recursive = .error fault := by
  unfold list
  rw [fails]

theorem list_of_notDirectory (leads : tree.findNode path = .ok (base, node))
    (notDirectory : node ≠ .directory) : tree.list path recursive = .error .notDirectory := by
  unfold list
  rw [leads]
  cases node with
  | directory => exact absurd rfl notDirectory
  | _ => rfl

theorem listing_congr {other : FileTree}
    (same : ∀ names, other.children (base ++ names) = tree.children (base ++ names)) :
    other.listing recursive base = tree.listing recursive base :=
  congrArg (List.map (String.intercalate "/")) (namesBelow_congr same)

/-- Every name in a listing names a node. -/
theorem names_of_listed (member : relative ∈ tree.listing recursive base) :
    ∃ names node, tree.Names base relative names node ∧ IsSought recursive names node := by
  obtain ⟨names, below, rfl⟩ := List.mem_map.mp member
  obtain ⟨some, node, entry, sought⟩ := sought_of_mem_namesBelow below
  exact ⟨names, node, ⟨some, rfl, entry⟩, sought⟩

/-- A listing names what lies directly in a directory, or, if it goes into the directories below,
all that is no directory. -/
theorem mem_listing_iff (wellFormed : tree.WellFormed) :
    relative ∈ tree.listing recursive base ↔
      ∃ names node, tree.Names base relative names node ∧ IsSought recursive names node := by
  constructor
  · exact names_of_listed
  · rintro ⟨names, node, named, sought⟩
    rw [named.text]
    exact List.mem_map_of_mem
      (mem_namesBelow_of_sought wellFormed named.some named.entry sought)

namespace Names

theorem isNames (named : tree.Names base relative names node) (wellFormed : tree.WellFormed) :
    ∀ name ∈ names, Path.IsEntryName name :=
  fun name member => wellFormed.named _ named.entry name (List.mem_append_right _ member)

theorem stands (named : tree.Names base relative names node) (wellFormed : tree.WellFormed) :
    tree.node? (base ++ names) = .some node :=
  wellFormed.node?_of_mem named.entry

/-- The names are the pieces of the relative path. -/
theorem pieces (named : tree.Names base relative names node) (wellFormed : tree.WellFormed) :
    Text.pieces '/' relative = names := by
  rw [named.text, Text.pieces_intercalate named.some fun name member =>
    (named.isNames wellFormed name member).1.2.2]

/-- A listed name leads to the node that it is listed for, unless it cannot be asked for. -/
theorem find (named : tree.Names base relative names node) (wellFormed : tree.WellFormed)
    (leads : tree.findNode path = .ok (base, .directory))
    (usable : (path.join relative).isUsable = true) :
    tree.find .atLink (path.join relative) = .ok (.occupied (base ++ names) node) := by
  have isNames := named.isNames wellFormed
  rw [named.text, Path.join_names path named.some isNames] at usable ⊢
  have ordinary : ∀ name ∈ names, IsName name := fun name member =>
    ⟨(isNames name member).1.2.1, (isNames name member).1.1, (isNames name member).2⟩
  have toBase := find_of_findNode leads
  rw [find_eq_walk (isUsable_append.mp usable).1] at toBase
  obtain ⟨left, passes⟩ := passes_of_walk toBase
  have whole : tree.walk .atLink linkBudget (tree.startOfPath path) (path.parts ++ names) =
      tree.walk .atLink left base names := passes.walk named.some (by simp)
  rw [find_eq_walk usable]
  change tree.walk .atLink linkBudget (tree.startOfPath path) (path.parts ++ names) = _
  rw [whole]
  exact wellFormed.walk_names named.some ordinary (named.stands wellFormed) (.inl rfl)

theorem split (named : tree.Names base relative names node) :
    ∃ directory name, names = directory ++ [name] :=
  ⟨names.dropLast, names.getLast named.some, (List.dropLast_concat_getLast named.some).symm⟩

/-- If what stands below a directory can be asked for, so can a path to a listed name. -/
theorem isUsable (named : tree.Names base relative names node) (wellFormed : tree.WellFormed)
    (usable : tree.UsableBelow base) (leads : tree.findNode path = .ok (base, .directory)) :
    (path.join relative).isUsable = true := by
  have usablePath := usable_of_find (find_of_findNode leads)
  have usableNames := usable names (by simp [named.stands wellFormed])
  rw [named.text, Path.join_names path named.some (named.isNames wellFormed)]
  exact isUsable_append.mpr ⟨usablePath, usableNames⟩

theorem inspect (named : tree.Names base relative names node) (wellFormed : tree.WellFormed)
    (leads : tree.findNode path = .ok (base, .directory))
    (usable : (path.join relative).isUsable = true) :
    tree.inspect (path.join relative) = .ok node.kind := by
  unfold FileTree.inspect
  rw [named.find wellFormed leads usable]
  rfl

end Names

/-- No name is listed twice. -/
theorem listing_nodup (wellFormed : tree.WellFormed) (recursive : Bool) (base : Location) :
    (tree.listing recursive base).Nodup := by
  refine (namesBelow_nodup wellFormed recursive base).map_on fun names here others there same => ?_
  obtain ⟨some, node, entry, _⟩ := sought_of_mem_namesBelow here
  obtain ⟨someToo, other, entryToo, _⟩ := sought_of_mem_namesBelow there
  have named : tree.Names base (String.intercalate "/" names) names node := ⟨some, rfl, entry⟩
  have namedToo : tree.Names base (String.intercalate "/" names) others other :=
    ⟨someToo, same, entryToo⟩
  exact (named.pieces wellFormed).symm.trans (namedToo.pieces wellFormed)

end TemplateBundle.FileTree
