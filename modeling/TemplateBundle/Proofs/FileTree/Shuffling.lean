import TemplateBundle.Proofs.FileTree.Likeness
import TemplateBundle.Proofs.FileTree.Listing

/-!
Contract: a tree with its entries in another order.

Owns: such trees, and that the same stands everywhere in both, so that one is well formed if the
other is and ways lead to the same places.

Directories name their entries in the order of the list; a system may choose any.
-/

namespace TemplateBundle.FileTree

variable {tree shuffled : FileTree}

/-- The same nodes in another order: directories name their entries in any order. -/
structure Shuffles (tree shuffled : FileTree) : Prop where
  home : shuffled.home = tree.home
  entries : shuffled.entries.Perm tree.entries

namespace Shuffles

variable (shuffles : tree.Shuffles shuffled)

include shuffles

theorem node? (wellFormed : tree.WellFormed) (location : Location) :
    shuffled.node? location = tree.node? location := by
  have distinct : (shuffled.entries.map Prod.fst).Nodup :=
    (shuffles.entries.map Prod.fst).nodup_iff.mpr wellFormed.distinct
  by_cases isRoot : location = []
  · rw [isRoot, node?_root, node?_root]
  · cases stands : tree.node? location with
    | some node =>
        have member := mem_entries_of_node? stands isRoot
        exact node?_of_distinct distinct isRoot (shuffles.entries.mem_iff.mpr member)
    | none =>
        cases standsToo : shuffled.node? location with
        | none => rfl
        | some node =>
            have member := mem_entries_of_node? standsToo isRoot
            rw [wellFormed.node?_of_mem (shuffles.entries.mem_iff.mp member)] at stands
            exact absurd stands (by simp)

theorem isDirectoryAt (wellFormed : tree.WellFormed) (location : Location) :
    shuffled.isDirectoryAt location = tree.isDirectoryAt location := by
  unfold FileTree.isDirectoryAt
  rw [shuffles.node? wellFormed]

theorem wellFormed (wellFormed : tree.WellFormed) : shuffled.WellFormed where
  distinct := (shuffles.entries.map Prod.fst).nodup_iff.mpr wellFormed.distinct
  rooted := fun entry member => wellFormed.rooted entry (shuffles.entries.mem_iff.mp member)
  named := fun entry member => wellFormed.named entry (shuffles.entries.mem_iff.mp member)
  inside := by
    intro entry member
    rw [shuffles.isDirectoryAt wellFormed]
    exact wellFormed.inside entry (shuffles.entries.mem_iff.mp member)
  home := by
    rw [shuffles.isDirectoryAt wellFormed, shuffles.home]
    exact wellFormed.home

theorem namesUsable (usable : tree.NamesUsable) : shuffled.NamesUsable :=
  fun entry member => usable entry (shuffles.entries.mem_iff.mp member)

theorem grows (wellFormed : tree.WellFormed) : Grows tree shuffled where
  home := shuffles.home
  kept := by
    intro location node stands
    exact ⟨node, (shuffles.node? wellFormed location).trans stands, rfl⟩
  added := by
    intro location target stands
    rw [← shuffles.node? wellFormed, stands]
    simp

end Shuffles

end TemplateBundle.FileTree
