import TemplateBundle.Proofs.FileTree.Listing
import TemplateBundle.Proofs.FileTree.Making

/-!
Contract: trees that have come about by writing files at some places.

Owns: what stands in such a tree (files at the places, directories above them, and all that stood
before), that making directories above a place and writing a file at one keep this so, and that
what is neither a place nor above one is as it was, in listings too.

Does not own: which places the files of a task go to (`Proofs.Build`).
-/

namespace TemplateBundle.FileTree

variable {start tree : FileTree} {places : Location → Prop} {location base : Location}
  {made : List Location} {node : Node}

/-- A tree that has come about from another by writing files at some places: what stood before
stands, with other bytes at most at these places, and what is new is a file at one of them or a
directory above one. -/
structure Built (start tree : FileTree) (places : Location → Prop) : Prop where
  wellFormed : tree.WellFormed
  grows : Grows start tree
  kept : ∀ location node, start.node? location = some node → ¬ places location →
    tree.node? location = some node
  added : ∀ location node, start.node? location = none → tree.node? location = some node →
    (places location ∧ ∃ content executable, node = .file content executable) ∨
      (node = .directory ∧ ∃ place, places place ∧ location <+: place ∧ location ≠ place)
  children : ∀ base, (∀ place, places place → base <+: place → base = place) →
    tree.children base = start.children base

/-- What is not below a directory does not lie in it. -/
theorem child?_outside (outside : base <+: location → base = location) :
    child? base (location, node) = none := by
  cases isChild : child? base (location, node) with
  | none => rfl
  | some child =>
      have lies : location = base ++ [child.1] := (child?_eq_some.mp isChild).1
      have same := outside ⟨[child.1], lies.symm⟩
      rw [lies] at same
      simp at same

theorem children_set (notRoot : location ≠ []) (outside : base <+: location → base = location) :
    (tree.set location node).children base = tree.children base := by
  apply filterMap_entries_set _ notRoot
  · intro old _
    rw [child?_outside outside, child?_outside outside]
  · exact fun _ => child?_outside outside

theorem children_withDirectories (outside : ∀ rung ∈ made, base <+: rung → base = rung) :
    (tree.withDirectories made).children base = tree.children base := by
  induction made generalizing tree with
  | nil => rfl
  | cons rung rest inductionHypothesis =>
      change ((tree.withDirectory rung).withDirectories rest).children base = _
      rw [inductionHypothesis fun other member => outside other (List.mem_cons_of_mem _ member)]
      cases stands : tree.node? rung with
      | none =>
          rw [withDirectory_of_vacant stands]
          exact children_set (ne_root_of_vacant stands) (outside rung (by simp))
      | some node => rw [withDirectory_of_stands stands]

namespace Built

theorem refl (wellFormed : start.WellFormed) (places : Location → Prop) :
    Built start start places where
  wellFormed := wellFormed
  grows := .refl start
  kept := fun _ _ stands _ => stands
  added := fun _ _ absent stands => by simp [absent] at stands
  children := fun _ _ => rfl

theorem directories (built : Built start tree places)
    (wellFormed : (tree.withDirectories made).WellFormed)
    (above : ∀ rung ∈ made, ∃ place, places place ∧ rung <+: place ∧ rung ≠ place) :
    Built start (tree.withDirectories made) places where
  wellFormed := wellFormed
  grows := built.grows.trans (grows_withDirectories tree made)
  kept := by
    intro location node stands notPlace
    rw [node?_withDirectories, built.kept location node stands notPlace]
    simp
  added := by
    intro location node absent stands
    rw [node?_withDirectories] at stands
    by_cases new : location ∈ made ∧ tree.node? location = none
    · rw [if_pos new] at stands
      exact .inr ⟨(Option.some.inj stands).symm, above location new.1⟩
    · rw [if_neg new] at stands
      exact built.added location node absent stands
  children := by
    intro base outside
    rw [children_withDirectories, built.children base outside]
    intro rung member inside
    obtain ⟨place, isPlace, below, different⟩ := above rung member
    obtain rfl := outside place isPlace (inside.trans below)
    exact absurd (below.eq_of_length_le inside.length_le) different

theorem file (built : Built start tree places) {content : ByteArray} {executable : Bool}
    (wellFormed : (tree.set location (.file content executable)).WellFormed)
    (isPlace : places location) (notRoot : location ≠ [])
    (fileOrFree : ∀ old, tree.node? location = some old → ∃ bytes flag, old = .file bytes flag) :
    Built start (tree.set location (.file content executable)) places where
  wellFormed := wellFormed
  grows := by
    refine built.grows.trans (grows_set notRoot (by simp) ?_)
    intro old stands
    obtain ⟨bytes, flag, rfl⟩ := fileOrFree old stands
    rfl
  kept := by
    intro other node stands notPlace
    have different : other ≠ location := by
      rintro rfl
      exact notPlace isPlace
    rw [node?_set_other notRoot different]
    exact built.kept other node stands notPlace
  added := by
    intro other node absent stands
    by_cases same : other = location
    · subst same
      rw [node?_set_same notRoot] at stands
      exact .inl ⟨isPlace, content, executable, (Option.some.inj stands).symm⟩
    · rw [node?_set_other notRoot same] at stands
      exact built.added other node absent stands
  children := by
    intro base outside
    rw [children_set notRoot (outside location isPlace), built.children base outside]

/-- The listing of a directory with no place below it is as it was. -/
theorem listing_eq (built : Built start tree places)
    (outside : ∀ place, places place → base <+: place → base = place) (recursive : Bool) :
    tree.listing recursive base = start.listing recursive base := by
  refine listing_congr fun names => built.children _ fun place isPlace inside => ?_
  have same := outside place isPlace ((List.prefix_append base names).trans inside)
  rw [same] at inside ⊢
  exact inside.eq_of_length_le (by simp)

/-- What is neither a place nor above one is as it was. -/
theorem node?_eq (built : Built start tree places)
    (outside : ∀ place, places place → ¬ location <+: place) :
    tree.node? location = start.node? location := by
  cases stands : start.node? location with
  | some node =>
      exact built.kept location node stands fun isPlace =>
        outside location isPlace (List.prefix_refl _)
  | none =>
      cases later : tree.node? location with
      | none => rfl
      | some node =>
          rcases built.added location node stands later with
            ⟨isPlace, _⟩ | ⟨_, place, isPlace, below, _⟩
          · exact absurd (List.prefix_refl _) (outside location isPlace)
          · exact absurd below (outside place isPlace)

/-- Nothing but directories is new on the way to a location, unless a place is above it where
nothing stood. -/
theorem growsToward (built : Built start tree places)
    (away : ∀ place, places place → start.node? place = none → place <+: location →
      place = location) : GrowsToward start tree location where
  grows := built.grows
  wellFormed := built.wellFormed
  clear := by
    intro above inside different absent
    cases later : tree.node? above with
    | none => exact .inl rfl
    | some node =>
        rcases built.added above node absent later with ⟨isPlace, _⟩ | ⟨isDirectory, _⟩
        · exact absurd (away above isPlace absent inside) different
        · right
          rw [isDirectoryAt_iff, later, isDirectory]

end Built

end TemplateBundle.FileTree
