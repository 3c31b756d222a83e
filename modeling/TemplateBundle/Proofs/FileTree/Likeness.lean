import TemplateBundle.Proofs.FileTree.Listing

/-!
Contract: trees that differ in what files hold, and in nothing else.

Owns: such trees as grown from each other, and that ways, listings and the kinds of nodes are
the same in both, also where they fail.

Growth alone says where a way leads, not why it is broken off: a name that is missing may be
there later. Here it may not.
-/

namespace TemplateBundle.FileTree

variable {first second : FileTree} {arrival : Arrival} {path : Path} {location : Location}
  {fault : FileFault}

/-- Each of two trees has grown from the other. -/
structure Alike (first second : FileTree) : Prop where
  forth : Grows first second
  back : Grows second first

theorem Alike.absent (alike : Alike first second) (absent : first.node? location = none) :
    second.node? location = none := by
  cases stands : second.node? location with
  | none => rfl
  | some node =>
      obtain ⟨later, standsFirst, _⟩ := alike.back.kept location node stands
      rw [absent] at standsFirst
      simp at standsFirst

theorem Alike.notDirectory (alike : Alike first second)
    (outside : first.isDirectoryAt location = false) : second.isDirectoryAt location = false := by
  rw [← Bool.not_eq_true] at outside ⊢
  exact fun directory => outside (alike.back.isDirectoryAt directory)

/-- A way is broken off in both trees for the same reason. -/
theorem walk_error_alike (alike : Alike first second) {budget : Nat} {parts : List String}
    (broken : first.walk arrival budget location parts = .error fault) :
    second.walk arrival budget location parts = .error fault := by
  induction budget, location, parts using walk_induction first arrival with
  | atEnd budget location =>
      rw [walk_nil] at broken ⊢
      cases stands : first.node? location with
      | none =>
          rw [alike.absent stands]
          rw [stands] at broken
          exact broken
      | some node => simp [stands] at broken
  | onward budget location part rest next turned inductionHypothesis =>
      rw [walk_onward turned] at broken
      rw [walk_onward (turn_onward_grows alike.forth turned)]
      exact inductionHypothesis broken
  | aside budget location part rest next others turned inductionHypothesis =>
      rw [walk_aside turned] at broken
      rw [walk_aside (turn_aside_grows alike.forth turned)]
      exact inductionHypothesis broken
  | tooMany location part rest next others turned =>
      rw [walk_aside_zero turned] at broken
      rw [walk_aside_zero (turn_aside_grows alike.forth turned)]
      exact broken
  | ends budget location part rest found turned =>
      rw [walk_ends turned] at broken
      simp at broken
  | breaks budget location part rest found turned =>
      rw [walk_breaks turned] at broken
      obtain rfl := Except.error.inj broken
      cases Turning.of_turn turned with
      | outside outside => exact walk_breaks (Turning.outside (alike.notDirectory outside)).eq
      | slash directory isName isSlash =>
          exact walk_breaks (Turning.slash (alike.forth.isDirectoryAt directory) isName isSlash).eq
      | missing directory isName notSlash more absent =>
          exact walk_breaks (Turning.missing (alike.forth.isDirectoryAt directory) isName notSlash
            more (alike.absent absent)).eq

theorem find_error_alike (alike : Alike first second)
    (broken : first.find arrival path = .error fault) :
    second.find arrival path = .error fault := by
  unfold find at broken ⊢
  rw [alike.forth.home]
  by_cases usable : path.isUsable = true
  · rw [if_pos usable] at broken ⊢
    exact walk_error_alike alike broken
  · rw [if_neg usable] at broken ⊢
    exact broken

/-- A path leads to the same location in both trees, to nodes of one shape, or it fails for the
same reason. -/
theorem findNode_alike (alike : Alike first second) (arrival : Arrival) (path : Path) :
    (∃ location node other, (first.find arrival path).bind Place.node = .ok (location, node) ∧
        (second.find arrival path).bind Place.node = .ok (location, other) ∧
          other.shape = node.shape) ∨
      ∃ fault, (first.find arrival path).bind Place.node = .error fault ∧
        (second.find arrival path).bind Place.node = .error fault := by
  cases leads : first.find arrival path with
  | error fault =>
      rw [find_error_alike alike leads]
      exact .inr ⟨fault, rfl, rfl⟩
  | ok place =>
      have same := place_of_find leads
      have leadsToo := find_grows alike.forth leads
      cases stands : first.node? place.location with
      | none =>
          rw [leadsToo, placeAt_of_vacant (alike.absent stands), same, placeAt_of_vacant stands]
          exact .inr ⟨.missing, rfl, rfl⟩
      | some node =>
          obtain ⟨later, standsLater, shape⟩ := alike.forth.kept _ node stands
          rw [leadsToo, placeAt_of_node standsLater, same, placeAt_of_node stands]
          exact .inl ⟨_, node, later, rfl, rfl, shape⟩

theorem inspect_alike (alike : Alike first second) (path : Path) :
    second.inspect path = first.inspect path := by
  unfold inspect
  rcases findNode_alike alike .atLink path with
    ⟨location, node, other, leads, leadsToo, shape⟩ | ⟨fault, broken, brokenToo⟩
  · rw [leads, leadsToo]
    exact congrArg Except.ok (kind_eq_of_shape shape)
  · rw [broken, brokenToo]

/-- Both trees list the same names, or neither lists any, for the same reason. -/
theorem list_alike (alike : Alike first second) (path : Path) (recursive : Bool)
    (sameNames : ∀ base, second.children base = first.children base) :
    second.list path recursive = first.list path recursive := by
  rcases findNode_alike alike .behindLink path with
    ⟨location, node, other, leads, leadsToo, shape⟩ | ⟨fault, broken, brokenToo⟩
  · by_cases directory : node = .directory
    · subst directory
      obtain rfl := shape_eq_directory shape
      rw [list_of_findNode leads, list_of_findNode leadsToo,
        listing_congr fun names => sameNames (location ++ names)]
    · have otherNot : other ≠ .directory := by
        rintro rfl
        exact directory (shape_eq_directory shape.symm)
      rw [list_of_notDirectory leads directory, list_of_notDirectory leadsToo otherNot]
  · rw [list_of_findNode_error broken, list_of_findNode_error brokenToo]

namespace WritesTo

variable {base : FileTree} {executable : Bool}

theorem alike (writes : base.WritesTo path location executable) (text other : String) :
    Alike (base.holding location executable text) (base.holding location executable other) :=
  ⟨writes.grows text other, writes.grows other text⟩

/-- What the file holds makes no difference to a listing. -/
theorem list_holding (writes : base.WritesTo path location executable) (text other : String)
    (directory : Path) (recursive : Bool) :
    (base.holding location executable other).list directory recursive =
      (base.holding location executable text).list directory recursive := by
  refine list_alike (writes.alike text other) directory recursive fun from_ => ?_
  have twice : base.holding location executable other =
      (base.holding location executable text).set location (.file other.toUTF8 executable) :=
    (set_twice ..).symm
  rw [twice]
  refine filterMap_entries_set _ writes.notRoot (fun old stands => ?_) fun absent => ?_
  · rw [writes.node?_holding, if_pos rfl, Option.some.injEq] at stands
    rw [← stands]
    rfl
  · rw [writes.node?_holding, if_pos rfl] at absent
    simp at absent

end WritesTo

end TemplateBundle.FileTree
