import TemplateBundle.Proofs.FileTree.Content
import TemplateBundle.Proofs.FileTree.Passage
import TemplateBundle.Proofs.Path

/-!
Contract: the lists of nodes that are trees of files.

Owns: well-formed trees (each location once, ordinary names, every node in a directory, and a
working directory that is there), the way along names to what stands below a directory, and that
every step which adds a node keeps trees well formed.
-/

namespace TemplateBundle.FileTree

variable {tree changed : FileTree} {arrival : Arrival} {location : Location} {node : Node}

/-- The list of nodes is a tree: each node has a location of its own, with ordinary names, in
a directory, and the working directory is there. -/
structure WellFormed (tree : FileTree) : Prop where
  distinct : (tree.entries.map Prod.fst).Nodup
  rooted : ∀ entry ∈ tree.entries, entry.1 ≠ []
  named : ∀ entry ∈ tree.entries, ∀ name ∈ entry.1, Path.IsEntryName name
  inside : ∀ entry ∈ tree.entries, tree.isDirectoryAt entry.1.dropLast = true
  home : tree.isDirectoryAt tree.home = true

theorem mem_entries_of_node? (stands : tree.node? location = some node) (notRoot : location ≠ []) :
    (location, node) ∈ tree.entries := by
  unfold node? at stands
  rw [if_neg notRoot, Option.map_eq_some_iff] at stands
  obtain ⟨⟨found, present⟩, search, rfl⟩ := stands
  have same : found = location := by simpa using List.find?_some search
  subst same
  exact List.mem_of_find?_eq_some search

/-- An entry is what stands at its location, if each location is listed once. -/
theorem node?_of_distinct (distinct : (tree.entries.map Prod.fst).Nodup)
    (notRoot : location ≠ []) (member : (location, node) ∈ tree.entries) :
    tree.node? location = some node := by
  unfold node?
  rw [if_neg notRoot]
  revert distinct member
  generalize tree.entries = entries
  intro distinct member
  induction entries with
  | nil => simp at member
  | cons entry rest inductionHypothesis =>
      rw [List.map_cons, List.nodup_cons] at distinct
      rcases List.mem_cons.mp member with rfl | inRest
      · simp
      · have different : entry.1 ≠ location := by
          rintro rfl
          exact distinct.1 (List.mem_map.mpr ⟨_, inRest, rfl⟩)
        rw [List.find?_cons_of_neg (by simpa using different)]
        exact inductionHypothesis distinct.2 inRest

namespace WellFormed

theorem node?_of_mem (wellFormed : tree.WellFormed) (member : (location, node) ∈ tree.entries) :
    tree.node? location = some node :=
  node?_of_distinct wellFormed.distinct (wellFormed.rooted _ member) member

/-- What stands somewhere stands in a directory. -/
theorem parent (wellFormed : tree.WellFormed) (stands : tree.node? location = some node) :
    tree.isDirectoryAt location.dropLast = true := by
  by_cases isRoot : location = []
  · rw [isRoot]
    exact isDirectoryAt_root tree
  · exact wellFormed.inside _ (mem_entries_of_node? stands isRoot)

/-- All places above one where something stands are directories. -/
theorem above (wellFormed : tree.WellFormed) {front names : List String}
    (stands : tree.node? (front ++ names) = some node) (some : names ≠ []) :
    tree.isDirectoryAt front = true := by
  induction length : names.length generalizing names node with
  | zero => exact absurd (List.eq_nil_of_length_eq_zero length) some
  | succ count inductionHypothesis =>
      have parent := wellFormed.parent stands
      rw [List.dropLast_append_of_ne_nil some] at parent
      by_cases none : names.dropLast = []
      · rwa [none, List.append_nil] at parent
      · exact inductionHypothesis (isDirectoryAt_iff.mp parent) none (by simp [length])

/-- The way from a directory along the names of what stands below it. A link there is not
followed, and no file is made. -/
theorem walk_names (wellFormed : tree.WellFormed) {base : Location} {names : List String}
    {budget : Nat} (more : names ≠ []) (isNames : ∀ name ∈ names, IsName name)
    (stands : tree.node? (base ++ names) = some node)
    (direct : arrival = .atLink ∨ ∀ target, node ≠ .link target) :
    tree.walk arrival budget base names = .ok (.occupied (base ++ names) node) := by
  obtain ⟨front, last, rfl⟩ : ∃ front last, names = front ++ [last] :=
    ⟨names.dropLast, names.getLast more, (List.dropLast_concat_getLast more).symm⟩
  have directories (inner : List String) (within : inner <+: front) :
      tree.isDirectoryAt (base ++ inner) = true := by
    obtain ⟨others, rfl⟩ := within
    have split : base ++ (inner ++ others ++ [last]) =
        (base ++ inner) ++ (others ++ [last]) := by simp
    rw [split] at stands
    exact wellFormed.above stands (by simp)
  have start : tree.isDirectoryAt base = true := by
    have atBase := directories [] ⟨front, rfl⟩
    rwa [List.append_nil] at atBase
  have inDirectory := directories front (List.prefix_refl front)
  have isName : IsName last := isNames last (by simp)
  have along : Passes tree budget base front budget (base ++ front) :=
    passes_names (fun name member => isNames name (by simp [member])) start directories
  have notSlash : ¬ (arrival = .making ∧ [last] = [""]) := by
    rintro ⟨_, empty⟩
    exact isName.2.1 (List.cons.inj empty).1
  rw [← List.append_assoc] at stands
  rw [along.walk (by simp) notSlash]
  by_cases isLink : ∃ target, node = .link target
  · obtain ⟨target, rfl⟩ := isLink
    have atLink : arrival = .atLink := direct.resolve_right fun notLink => notLink target rfl
    rw [walk_ends (Turning.atLink target inDirectory isName rfl atLink stands).eq,
      List.append_assoc]
  · rw [walk_name inDirectory isName (by simp) stands fun target same => isLink ⟨target, same⟩,
      walk_nil, stands, List.append_assoc]

/-! ### Steps that add a node -/

private theorem keys_setEntries (entries : List (Location × Node)) (location : Location)
    (node : Node) :
    (setEntries entries location node).map Prod.fst =
      if location ∈ entries.map Prod.fst then entries.map Prod.fst
      else entries.map Prod.fst ++ [location] := by
  induction entries with
  | nil => simp [setEntries]
  | cons entry rest inductionHypothesis =>
      obtain ⟨present, old⟩ := entry
      by_cases here : present = location
      · simp [setEntries, here]
      · have tail : setEntries ((present, old) :: rest) location node =
            (present, old) :: setEntries rest location node := by
          simp [setEntries, here]
        rw [tail, List.map_cons, List.map_cons, inductionHypothesis]
        by_cases inside : location ∈ rest.map Prod.fst
        · rw [if_pos inside, if_pos (List.mem_cons_of_mem _ inside)]
        · have outside : location ∉ present :: rest.map Prod.fst := by
            rw [List.mem_cons, not_or]
            exact ⟨Ne.symm here, inside⟩
          rw [if_neg inside, if_neg outside, List.cons_append]

/-- A node that is set at a named place in a directory, and leaves directories as they are,
keeps a tree well formed. -/
theorem set (wellFormed : tree.WellFormed) {parent : Location} {name : String}
    (directory : tree.isDirectoryAt parent = true) (isName : Path.IsEntryName name)
    (named : ∀ other ∈ parent, Path.IsEntryName other)
    (grows : Grows tree (tree.set (parent ++ [name]) node)) :
    (tree.set (parent ++ [name]) node).WellFormed := by
  have keys := keys_setEntries tree.entries (parent ++ [name]) node
  have key {entry : Location × Node} (member : entry ∈ (tree.set (parent ++ [name]) node).entries) :
      (∃ old, (entry.1, old) ∈ tree.entries) ∨ entry.1 = parent ++ [name] := by
    have inKeys : entry.1 ∈ (setEntries tree.entries (parent ++ [name]) node).map Prod.fst :=
      List.mem_map_of_mem member
    rw [keys] at inKeys
    split at inKeys
    · obtain ⟨old, present, same⟩ := List.mem_map.mp inKeys
      exact .inl ⟨old.2, by rw [← same]; exact present⟩
    · rcases List.mem_append.mp inKeys with before | new
      · obtain ⟨old, present, same⟩ := List.mem_map.mp before
        exact .inl ⟨old.2, by rw [← same]; exact present⟩
      · exact .inr (List.mem_singleton.mp new)
  constructor
  · change ((setEntries tree.entries (parent ++ [name]) node).map Prod.fst).Nodup
    rw [keys]
    split
    · exact wellFormed.distinct
    · rename_i absent
      rw [List.nodup_append]
      refine ⟨wellFormed.distinct, by simp, ?_⟩
      rintro other present last isLast rfl
      rw [List.mem_singleton.mp isLast] at present
      exact absent present
  · intro entry member
    rcases key member with ⟨old, present⟩ | new
    · exact wellFormed.rooted (entry.1, old) present
    · rw [new]
      simp
  · intro entry member other inEntry
    rcases key member with ⟨old, present⟩ | new
    · exact wellFormed.named (entry.1, old) present other inEntry
    · rw [new, List.mem_append, List.mem_singleton] at inEntry
      rcases inEntry with inParent | rfl
      · exact named other inParent
      · exact isName
  · intro entry member
    rcases key member with ⟨old, present⟩ | new
    · exact grows.isDirectoryAt (wellFormed.inside (entry.1, old) present)
    · rw [new, List.dropLast_concat]
      exact grows.isDirectoryAt directory
  · exact grows.isDirectoryAt wellFormed.home

end WellFormed

/-! ### Free names -/

theorem wayOf_no_slash {text part : String} (member : part ∈ wayOf text) : '/' ∉ part.toList := by
  have inPieces {piece : String}
      (inside : piece ∈ (Text.pieces '/' text).filter (· ≠ "")) : '/' ∉ piece.toList :=
    Text.pieces_no_separator (List.mem_filter.mp inside).1
  unfold wayOf at member
  dsimp only at member
  split at member
  · rcases List.mem_append.mp member with inside | last
    · exact inPieces inside
    · rw [List.mem_singleton.mp last]
      simp
  · exact inPieces member

/-- A free name that a way leads to is an ordinary name in a directory. -/
theorem vacant_of_walk {budget : Nat} {location free : Location} {parts : List String}
    (clean : ∀ part ∈ parts, '/' ∉ part.toList)
    (leads : tree.walk arrival budget location parts = .ok (.vacant free)) :
    ∃ parent name, free = parent ++ [name] ∧ tree.isDirectoryAt parent = true ∧
      Path.IsEntryName name := by
  replace leads := leads_of_walk leads
  generalize ending : Place.vacant free = place at leads
  induction leads with
  | atEnd _ => simp at ending
  | onward _ _ inductionHypothesis =>
      exact inductionHypothesis (fun other member => clean other (by simp [member])) ending
  | aside turning _ inductionHypothesis =>
      refine inductionHypothesis ?_ ending
      cases turning with
      | aside target _ _ _ _ _ =>
          intro other member
          rcases List.mem_append.mp member with inTarget | inRest
          · exact wayOf_no_slash inTarget
          · exact clean other (by simp [inRest])
  | ends turning =>
      subst ending
      cases turning with
      | free directory isName _ _ =>
          exact ⟨_, _, rfl, directory,
            ⟨⟨isName.2.1, isName.1, clean _ (by simp)⟩, isName.2.2⟩⟩

theorem vacant_of_find_normal {path : Path} (normal : path.IsNormal) {free : Location}
    (leads : tree.find arrival path = .ok (.vacant free)) :
    ∃ parent name, free = parent ++ [name] ∧ tree.isDirectoryAt parent = true ∧
      Path.IsEntryName name := by
  unfold find at leads
  by_cases usable : path.isUsable = true
  · rw [if_pos usable] at leads
    exact vacant_of_walk (fun part member => (normal part member).2.2) leads
  · simp [usable] at leads

/-! ### Nodes at free names, and files that are rewritten -/

namespace WellFormed

/-- A node at a free name that a normal path leads to keeps a tree well formed. -/
theorem set_free {path : Path} {free : Location} (wellFormed : tree.WellFormed)
    (normal : path.IsNormal) (leads : tree.find arrival path = .ok (.vacant free))
    (notLink : ∀ target, node ≠ .link target) :
    (tree.set free node).WellFormed ∧ Grows tree (tree.set free node) := by
  have absent := vacant_of_find leads
  have grows : Grows tree (tree.set free node) :=
    grows_set (ne_root_of_vacant absent) notLink (by simp [absent])
  obtain ⟨parent, name, rfl, directory, isName⟩ := vacant_of_find_normal normal leads
  refine ⟨wellFormed.set directory isName ?_ grows, grows⟩
  intro other member
  by_cases isRoot : parent = []
  · simp [isRoot] at member
  · exact wellFormed.named _
      (mem_entries_of_node? (isDirectoryAt_iff.mp directory) isRoot) other member

/-- A file with other bytes keeps a tree well formed. -/
theorem set_file {content : ByteArray} {executable : Bool} (wellFormed : tree.WellFormed)
    (later : ByteArray) (flag : Bool)
    (stands : tree.node? location = some (.file content executable)) :
    (tree.set location (.file later flag)).WellFormed := by
  have notRoot : location ≠ [] := by
    rintro rfl
    simp [node?_root] at stands
  obtain ⟨parent, name, rfl⟩ : ∃ parent name, location = parent ++ [name] :=
    ⟨location.dropLast, location.getLast notRoot, (List.dropLast_concat_getLast notRoot).symm⟩
  have member := mem_entries_of_node? stands notRoot
  have named := wellFormed.named _ member
  refine wellFormed.set (wellFormed.above stands (by simp)) (named name (by simp))
    (fun other inParent => named other (List.mem_append_left _ inParent)) ?_
  exact grows_set notRoot (by simp) fun old present => by
    rw [stands, Option.some.injEq] at present
    rw [← present]
    rfl

/-- Writing to a normal path keeps a tree well formed. -/
theorem change {path : Path} {content : ByteArray → ByteArray} (wellFormed : tree.WellFormed)
    (normal : path.IsNormal) (succeeds : tree.change path content = .ok changed) :
    changed.WellFormed := by
  obtain ⟨place, old, executable, leads, held, rfl⟩ := change_ok succeeds
  obtain ⟨notRoot, fileOrFree⟩ := fileOrFree_of_held leads held
  have same := place_of_find leads
  cases stands : tree.node? place.location with
  | none =>
      rw [same, placeAt_of_vacant stands] at leads
      exact (wellFormed.set_free normal leads (by simp)).1
  | some node =>
      obtain ⟨bytes, flag, rfl⟩ := fileOrFree node stands
      exact wellFormed.set_file _ _ stands

end WellFormed

end TemplateBundle.FileTree
