import TemplateBundle.Proofs.FileTree.Passage
import TemplateBundle.Proofs.FileTree.WellFormed

/-!
Contract: directories that are made.

Owns: one directory made or found, the equation of making directories above one another, what
every directory made keeps true, and that a directory whose making succeeds is reached.
-/

namespace TemplateBundle.FileTree

variable {tree changed : FileTree} {path : Path} {slashes : Nat} {part : String}
  {above : List String}

/-- Makes one directory, or finds it there. -/
def makeOne (tree : FileTree) (path : Path) : Except FileFault Unit × FileTree :=
  match tree.makeDirectory path with
  | .ok made => (.ok (), made)
  | .error fault => (if tree.reachesDirectory path then .ok () else .error fault, tree)

/-- Makes the directories above one, unless they are there. That a name is taken is no fault
yet. -/
def makeAbove (slashes : Nat) (tree : FileTree) (above : List String) :
    Except FileFault Unit × FileTree :=
  if above ≠ [] ∧ ¬ tree.reaches ⟨slashes, above.reverse⟩ then
    match makeDirectoriesUp slashes tree above with
    | (.error .alreadyExists, changed) => (.ok (), changed)
    | result => result
  else (.ok (), tree)

theorem makeDirectoriesUp_cons (slashes : Nat) (tree : FileTree) (part : String)
    (above : List String) :
    makeDirectoriesUp slashes tree (part :: above) =
      match makeAbove slashes tree above with
      | (.error fault, changed) => (.error fault, changed)
      | (.ok (), changed) => changed.makeOne ⟨slashes, (part :: above).reverse⟩ := by
  rw [makeDirectoriesUp]
  unfold makeAbove
  by_cases needed : above ≠ [] ∧ ¬ tree.reaches ⟨slashes, above.reverse⟩
  · simp only [if_pos needed]
    rcases makeDirectoriesUp slashes tree above with ⟨fault | _, changed⟩
    · cases fault <;> rfl
    · rfl
  · simp only [if_neg needed]
    rfl

theorem makeDirectory_ok {made : FileTree} (succeeds : tree.makeDirectory path = .ok made) :
    ∃ location, tree.find .atLink path = .ok (.vacant location) ∧
      made = tree.set location .directory := by
  unfold makeDirectory at succeeds
  cases leads : tree.find .atLink path with
  | error fault => simp [leads] at succeeds
  | ok place =>
      cases place with
      | occupied location node => simp [leads] at succeeds
      | vacant location =>
          simp only [leads, Except.ok.injEq] at succeeds
          exact ⟨location, rfl, succeeds.symm⟩

/-- What each new directory keeps true is true after all of them. Each is named by the path or by
one above it. -/
theorem makeDirectoriesUp_preserves (property : FileTree → Prop) {parts : List String}
    (step : ∀ tree path location, path.parts.reverse <:+ parts → path.slashes = slashes →
      property tree → tree.find .atLink path = .ok (.vacant location) →
        property (tree.set location .directory))
    (holds : property tree) : property (makeDirectoriesUp slashes tree parts).2 := by
  have one (tree : FileTree) (path : Path) (within : path.parts.reverse <:+ parts)
      (same : path.slashes = slashes) (holds : property tree) :
      property (tree.makeOne path).2 := by
    unfold makeOne
    cases made : tree.makeDirectory path with
    | error fault => exact holds
    | ok changed =>
        obtain ⟨location, leads, rfl⟩ := makeDirectory_ok made
        exact step tree path location within same holds leads
  induction parts generalizing tree with
  | nil => exact one tree ⟨slashes, []⟩ (List.suffix_refl _) rfl holds
  | cons part above inductionHypothesis =>
      have wider {path : Path} (within : path.parts.reverse <:+ above) :
          path.parts.reverse <:+ part :: above := within.trans (List.suffix_cons part above)
      have made : property (makeAbove slashes tree above).2 := by
        have up := inductionHypothesis
          (fun tree path location within => step tree path location (wider within)) holds
          (fun tree path within => one tree path (wider within))
        unfold makeAbove
        split
        · split
          · rename_i same
            rw [same] at up
            exact up
          · exact up
        · exact holds
      rw [makeDirectoriesUp_cons]
      rcases reached : makeAbove slashes tree above with ⟨fault | _, changed⟩
      · rw [reached] at made
        exact made
      · rw [reached] at made
        exact one changed _ (by simp) rfl made

/-! ### One directory -/

theorem reachesDirectory_iff : tree.reachesDirectory path = true ↔
    ∃ location, tree.findNode path = .ok (location, .directory) := by
  unfold reachesDirectory
  rcases tree.findNode path with fault | ⟨location, node⟩
  · simp
  · cases node <;> simp

theorem makeOne_ok (done : tree.makeOne path = (.ok (), changed)) :
    (∃ location, tree.find .atLink path = .ok (.vacant location) ∧
      changed = tree.set location .directory) ∨
    (tree.makeDirectory path).toBool = false ∧ tree.reachesDirectory path = true ∧
      changed = tree := by
  unfold makeOne at done
  cases made : tree.makeDirectory path with
  | ok found =>
      obtain ⟨location, leads, rfl⟩ := makeDirectory_ok made
      simp only [made, Prod.mk.injEq] at done
      exact .inl ⟨location, leads, done.2.symm⟩
  | error fault =>
      simp only [made, Prod.mk.injEq] at done
      refine .inr ⟨rfl, ?_, done.2.symm⟩
      by_cases reaches : tree.reachesDirectory path = true
      · exact reaches
      · simp [reaches] at done

/-- A directory that is made or found is reached. -/
theorem reachesDirectory_of_makeOne (done : tree.makeOne path = (.ok (), changed)) :
    changed.reachesDirectory path = true := by
  rcases makeOne_ok done with ⟨location, leads, rfl⟩ | ⟨_, reached, rfl⟩
  · have absent := vacant_of_find leads
    have grows : Grows tree (tree.set location .directory) :=
      grows_set (ne_root_of_vacant absent) (by simp) (by simp [absent])
    have found := find_grows grows (find_behindLink_of_atLink leads (by simp))
    rw [Place.location, placeAt_of_node (node?_set_same (ne_root_of_vacant absent))] at found
    exact reachesDirectory_iff.mpr ⟨location, findNode_of_find found⟩
  · exact reached

theorem makeOne_error {fault : FileFault} (fails : tree.makeOne path = (.error fault, changed)) :
    changed = tree ∧ tree.reachesDirectory path = false := by
  unfold makeOne at fails
  cases made : tree.makeDirectory path with
  | ok found => simp [made] at fails
  | error other =>
      simp only [made, Prod.mk.injEq] at fails
      refine ⟨fails.2.symm, ?_⟩
      by_cases reaches : tree.reachesDirectory path = true
      · simp [reaches] at fails
      · exact Bool.eq_false_iff.mpr reaches

/-- A directory can be made or found only in a directory. -/
theorem above_of_makeOne {front : List String}
    (done : tree.makeOne ⟨slashes, front ++ [part]⟩ = (.ok (), changed)) :
    ∃ location, tree.findNode ⟨slashes, front⟩ = .ok (location, .directory) := by
  rcases makeOne_ok done with ⟨location, leads, _⟩ | ⟨_, reaches, _⟩
  · exact findNode_of_find_append (by simp) leads
  · obtain ⟨location, leads⟩ := reachesDirectory_iff.mp reaches
    unfold findNode at leads
    cases found : tree.find .behindLink ⟨slashes, front ++ [part]⟩ with
    | error fault => simp [found, Except.bind] at leads
    | ok place => exact findNode_of_find_append (by simp) found

/-! ### Directories above one another -/

theorem makeAbove_error {fault : FileFault}
    (fails : makeAbove slashes tree above = (.error fault, changed)) :
    fault ≠ .alreadyExists := by
  unfold makeAbove at fails
  split at fails
  · split at fails
    · simp at fails
    · rename_i notTaken
      rintro rfl
      exact notTaken changed fails
  · simp at fails

/-- If a name is taken, what takes it is no directory. -/
theorem makeDirectoriesUp_taken {parts : List String}
    (fails : makeDirectoriesUp slashes tree parts = (.error .alreadyExists, changed)) :
    changed.reachesDirectory ⟨slashes, parts.reverse⟩ = false := by
  cases parts with
  | nil =>
      obtain ⟨rfl, no⟩ := makeOne_error fails
      exact no
  | cons part above =>
      rw [makeDirectoriesUp_cons] at fails
      rcases made : makeAbove slashes tree above with ⟨fault | _, middle⟩
      · rw [made] at fails
        simp only [Prod.mk.injEq, Except.error.injEq] at fails
        exact absurd fails.1 (makeAbove_error made)
      · rw [made] at fails
        obtain ⟨rfl, no⟩ := makeOne_error fails
        exact no

/-- A directory above that is there in the end stood there, or it was made with all above it. -/
theorem makeAbove_ok (done : makeAbove slashes tree above = (.ok (), changed))
    (there : changed.reachesDirectory ⟨slashes, above.reverse⟩ = true) :
    (¬ (above ≠ [] ∧ ¬ tree.reaches ⟨slashes, above.reverse⟩ = true) ∧ tree = changed) ∨
    (above ≠ [] ∧ ¬ tree.reaches ⟨slashes, above.reverse⟩ = true) ∧
      makeDirectoriesUp slashes tree above = (.ok (), changed) := by
  unfold makeAbove at done
  by_cases needed : above ≠ [] ∧ ¬ tree.reaches ⟨slashes, above.reverse⟩ = true
  · rw [if_pos needed] at done
    rcases up : makeDirectoriesUp slashes tree above with ⟨fault | _, result⟩
    · rw [up] at done
      cases fault with
      | alreadyExists =>
          obtain rfl : result = changed := by simpa using done
          rw [makeDirectoriesUp_taken up] at there
          simp at there
      | _ => simp at done
    · rw [up] at done
      exact .inr ⟨needed, done⟩
  · rw [if_neg needed] at done
    exact .inl ⟨needed, (Prod.mk.inj done).2⟩

theorem reachesDirectory_of_makeDirectories
    (done : tree.makeDirectories path = (.ok (), changed)) :
    changed.reachesDirectory path = true := by
  have isPath : (⟨path.slashes, path.parts.reverse.reverse⟩ : Path) = path := by
    rw [List.reverse_reverse]
  unfold makeDirectories at done
  cases parts : path.parts.reverse with
  | nil =>
      rw [parts] at done isPath
      rw [← isPath]
      exact reachesDirectory_of_makeOne done
  | cons part above =>
      rw [parts] at done isPath
      rw [makeDirectoriesUp_cons] at done
      rcases made : makeAbove path.slashes tree above with ⟨fault | ⟨⟩, middle⟩
      · rw [made] at done
        exact absurd (congrArg Prod.fst done) (by simp)
      · rw [made] at done
        rw [← isPath]
        exact reachesDirectory_of_makeOne done

theorem makeDirectoriesUp_wellFormed (slashes : Nat) {parts : List String}
    (wellFormed : tree.WellFormed)
    (normal : ∀ part ∈ parts, Path.IsPart part) :
    (makeDirectoriesUp slashes tree parts).2.WellFormed ∧
      Grows tree (makeDirectoriesUp slashes tree parts).2 := by
  refine makeDirectoriesUp_preserves (fun result =>
    result.WellFormed ∧ Grows tree result) ?_ ⟨wellFormed, Grows.refl tree⟩
  rintro middle path location within _ ⟨middleWellFormed, grown⟩ leads
  have made : (middle.set location .directory).WellFormed ∧
      Grows middle (middle.set location .directory) :=
    middleWellFormed.set_free
      (fun part member => normal part (within.subset (List.mem_reverse.mpr member))) leads (by simp)
  exact ⟨made.1, grown.trans made.2⟩

theorem makeDirectories_wellFormed (wellFormed : tree.WellFormed) (normal : path.IsNormal) :
    (tree.makeDirectories path).2.WellFormed ∧ Grows tree (tree.makeDirectories path).2 :=
  makeDirectoriesUp_wellFormed path.slashes wellFormed fun part member =>
    normal part (List.mem_reverse.mp member)

end TemplateBundle.FileTree
