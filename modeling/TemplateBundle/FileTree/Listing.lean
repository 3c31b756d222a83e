import TemplateBundle.FileTree.Basic

/-!
Contract: the names in a directory.

Owns: what lies directly in a directory, and the listing of a directory, which goes into the
directories below if it is asked to. No link is gone into.

Does not own: which of the names are those of templates (`Template.Discovery`).
-/

namespace TemplateBundle.FileTree

/-- The names on the way from a directory to a location below it. -/
def below? (base location : Location) : Option (List String) :=
  if base.isPrefixOf location ∧ base.length < location.length
  then some (location.drop base.length) else none

theorem below?_eq_some {base location : Location} {names : List String} :
    below? base location = some names ↔ names ≠ [] ∧ location = base ++ names := by
  unfold below?
  constructor
  · intro found
    by_cases inside : base.isPrefixOf location = true ∧ base.length < location.length
    · obtain ⟨others, rfl⟩ := List.isPrefixOf_iff_prefix.mp inside.1
      rw [if_pos inside, List.drop_left, Option.some.injEq] at found
      subst found
      refine ⟨?_, rfl⟩
      rintro rfl
      simp at inside
    · rw [if_neg inside] at found
      simp at found
  · rintro ⟨more, rfl⟩
    have longer := List.length_pos_iff.mpr more
    have inside : base.isPrefixOf (base ++ names) = true ∧
        base.length < (base ++ names).length :=
      ⟨List.isPrefixOf_iff_prefix.mpr (List.prefix_append _ _), by simpa using longer⟩
    rw [if_pos inside, List.drop_left]

/-- What an entry is to a directory that it lies directly in: a name, and the kind of its node. -/
def child? (base : Location) (entry : Location × Node) : Option (String × NodeKind) :=
  match below? base entry.1 with
  | some [name] => some (name, entry.2.kind)
  | _ => none

theorem child?_eq_some {base : Location} {entry : Location × Node} {child : String × NodeKind} :
    child? base entry = some child ↔ entry.1 = base ++ [child.1] ∧ entry.2.kind = child.2 := by
  unfold child?
  constructor
  · intro found
    split at found
    · rename_i name isBelow
      obtain rfl := Option.some.inj found
      exact ⟨(below?_eq_some.mp isBelow).2, rfl⟩
    · simp at found
  · rintro ⟨lies, kind⟩
    rw [below?_eq_some.mpr ⟨List.cons_ne_nil _ _, lies⟩, kind]

/-- What lies directly in a directory, in the order in which the directory names it. -/
def children (tree : FileTree) (base : Location) : List (String × NodeKind) :=
  tree.entries.filterMap (child? base)

/-- What stands below a directory. -/
def nodesBelow (tree : FileTree) (base : Location) : List (Location × Node) :=
  tree.entries.filter fun entry => (below? base entry.1).isSome

/-- There is less below what lies in a directory than below the directory. -/
theorem nodesBelow_child {tree : FileTree} {base : Location} {child : String × NodeKind}
    (member : child ∈ tree.children base) :
    (tree.nodesBelow (base ++ [child.1])).length < (tree.nodesBelow base).length := by
  have narrower : tree.nodesBelow (base ++ [child.1]) = (tree.nodesBelow base).filter
      fun entry => (below? (base ++ [child.1]) entry.1).isSome := by
    unfold nodesBelow
    rw [List.filter_filter]
    refine List.filter_congr fun entry _ => ?_
    cases isBelow : below? (base ++ [child.1]) entry.1 with
    | none => simp
    | some names =>
        have whole := (below?_eq_some.mp isBelow).2
        rw [List.append_assoc] at whole
        rw [below?_eq_some.mpr ⟨by simp, whole⟩]
        rfl
  obtain ⟨entry, inEntries, isChild⟩ := List.mem_filterMap.mp member
  have lies := (child?_eq_some.mp isChild).1
  rw [narrower, List.length_filter_lt_length_iff_exists]
  refine ⟨entry, List.mem_filter.mpr ⟨inEntries, ?_⟩, ?_⟩
  · rw [below?_eq_some.mpr ⟨List.cons_ne_nil _ _, lies⟩]
    rfl
  · rw [lies]
    simp [below?]

/-- The names on the ways to what is listed of a directory. If the listing goes into the
directories below, what is listed of them stands in the place of their names. -/
def namesBelow (tree : FileTree) (recursive : Bool) (base : Location) : List (List String) :=
  (tree.children base).attach.flatMap fun child =>
    if recursive = true ∧ child.1.2 = .directory then
      (namesBelow tree recursive (base ++ [child.1.1])).map (child.1.1 :: ·)
    else [[child.1.1]]
termination_by (tree.nodesBelow base).length
decreasing_by exact nodesBelow_child child.2

/-- The listing of a directory: relative paths. -/
def listing (tree : FileTree) (recursive : Bool) (base : Location) : List String :=
  (tree.namesBelow recursive base).map (String.intercalate "/")

/-- The names in the directory a path leads to. -/
def list (tree : FileTree) (path : Path) (recursive : Bool) : Except FileFault (List String) :=
  match tree.findNode path with
  | .ok (location, .directory) => .ok (tree.listing recursive location)
  | .ok _ => .error .notDirectory
  | .error fault => .error fault

end TemplateBundle.FileTree
