import TemplateBundle.Proofs.FileTree.Nodes

/-!
Contract: where ways lead, in one tree and in a tree that has grown from it.

Owns: the place a way ends at is what stands at its location; a way that leads somewhere leads
to the same location after growth; a way that is broken off by something that stands there is
broken off after growth too.

The proofs follow the two recursions of a walk: over the links that are still allowed, and
over the parts between two links.
-/

namespace TemplateBundle.FileTree

variable {tree before after : FileTree} {arrival : Arrival}

/-- What stands at a location, as a place. -/
def placeAt (tree : FileTree) (location : Location) : Place :=
  match tree.node? location with
  | some node => .occupied location node
  | none => .vacant location

@[simp] theorem placeAt_location (tree : FileTree) (location : Location) :
    (tree.placeAt location).location = location := by
  unfold placeAt
  cases tree.node? location <;> rfl

theorem placeAt_of_node {location : Location} {node : Node}
    (stands : tree.node? location = some node) :
    tree.placeAt location = .occupied location node := by
  simp [placeAt, stands]

theorem placeAt_of_vacant {location : Location} (absent : tree.node? location = none) :
    tree.placeAt location = .vacant location := by
  simp [placeAt, absent]

theorem placeAt_eq_occupied_iff {location : Location} {node : Node} :
    tree.placeAt location = .occupied location node ↔ tree.node? location = some node := by
  unfold placeAt
  cases tree.node? location <;> simp

/-! ### One turn -/

/-- The part is an ordinary name. -/
def IsName (part : String) : Prop := part ≠ "." ∧ part ≠ "" ∧ part ≠ ".."

instance (part : String) : Decidable (IsName part) :=
  inferInstanceAs (Decidable (part ≠ "." ∧ part ≠ "" ∧ part ≠ ".."))

/-- All that the next name on a way can come to, each with what it takes. -/
inductive Turning (tree : FileTree) (arrival : Arrival) (location : Location) (part : String)
    (rest : List String) : Turn → Prop
  | outside : tree.isDirectoryAt location = false →
      Turning tree arrival location part rest (.breaks .notDirectory)
  | here : tree.isDirectoryAt location = true → part = "." ∨ part = "" →
      Turning tree arrival location part rest (.onward location)
  | up : tree.isDirectoryAt location = true → part = ".." →
      Turning tree arrival location part rest (.onward location.dropLast)
  | slash : tree.isDirectoryAt location = true → IsName part → arrival = .making ∧ rest = [""] →
      Turning tree arrival location part rest (.breaks .isDirectory)
  | free : tree.isDirectoryAt location = true → IsName part → rest = [] →
      tree.node? (location ++ [part]) = none →
      Turning tree arrival location part rest (.ends (.vacant (location ++ [part])))
  | missing : tree.isDirectoryAt location = true → IsName part →
      ¬ (arrival = .making ∧ rest = [""]) → rest ≠ [] →
      tree.node? (location ++ [part]) = none →
      Turning tree arrival location part rest (.breaks .missing)
  | atLink (target : String) : tree.isDirectoryAt location = true → IsName part →
      rest = [] → arrival = .atLink → tree.node? (location ++ [part]) = some (.link target) →
      Turning tree arrival location part rest
        (.ends (.occupied (location ++ [part]) (.link target)))
  | aside (target : String) : tree.isDirectoryAt location = true → IsName part →
      ¬ (arrival = .making ∧ rest = [""]) → ¬ (rest = [] ∧ arrival = .atLink) →
      tree.node? (location ++ [part]) = some (.link target) →
      Turning tree arrival location part rest
        (.aside (startOf target location) (wayOf target ++ rest))
  | through (node : Node) : tree.isDirectoryAt location = true → IsName part →
      ¬ (arrival = .making ∧ rest = [""]) → tree.node? (location ++ [part]) = some node →
      (∀ target, node ≠ .link target) →
      Turning tree arrival location part rest (.onward (location ++ [part]))

theorem turning (tree : FileTree) (arrival : Arrival) (location : Location) (part : String)
    (rest : List String) :
    Turning tree arrival location part rest (tree.turn arrival location part rest) := by
  unfold turn
  by_cases directory : tree.isDirectoryAt location = true
  · rw [if_neg (not_not_intro directory)]
    by_cases isHere : part = "." ∨ part = ""
    · rw [if_pos isHere]
      exact .here directory isHere
    · rw [if_neg isHere]
      by_cases isUp : part = ".."
      · rw [if_pos isUp]
        exact .up directory isUp
      · rw [if_neg isUp]
        have isName : IsName part :=
          ⟨fun dot => isHere (.inl dot), fun no => isHere (.inr no), isUp⟩
        by_cases isSlash : arrival = .making ∧ rest = [""]
        · rw [if_pos isSlash]
          exact .slash directory isName isSlash
        · rw [if_neg isSlash]
          split
          · rename_i absent
            by_cases last : rest = []
            · rw [if_pos last]
              exact .free directory isName last absent
            · rw [if_neg last]
              exact .missing directory isName isSlash last absent
          · rename_i target stands
            by_cases atEnd : rest = [] ∧ arrival = .atLink
            · rw [if_pos atEnd]
              exact .atLink target directory isName atEnd.1 atEnd.2 stands
            · rw [if_neg atEnd]
              exact .aside target directory isName isSlash atEnd stands
          · rename_i node notLink stands
            exact .through node directory isName isSlash stands notLink
  · rw [if_pos directory]
    exact .outside (Bool.eq_false_iff.mpr directory)

/-- What a name can come to is what it comes to. -/
theorem Turning.eq {location : Location} {part : String} {rest : List String} {result : Turn}
    (turned : Turning tree arrival location part rest result) :
    tree.turn arrival location part rest = result := by
  unfold turn
  cases turned with
  | outside no => rw [if_pos (Bool.eq_false_iff.mp no)]
  | here directory isHere => rw [if_neg (not_not_intro directory), if_pos isHere]
  | up directory isUp => simp [directory, isUp]
  | slash directory isName isSlash =>
      simp [directory, isName.1, isName.2.1, isName.2.2, isSlash]
  | free directory isName last absent =>
      simp [directory, isName.1, isName.2.1, isName.2.2, last, absent]
  | missing directory isName notSlash last absent =>
      rw [if_neg (not_not_intro directory), if_neg (not_or.mpr ⟨isName.1, isName.2.1⟩),
        if_neg isName.2.2, if_neg notSlash]
      simp [last, absent]
  | atLink target directory isName last atEnd stands =>
      simp [directory, isName.1, isName.2.1, isName.2.2, last, atEnd, stands]
  | aside target directory isName notSlash notEnd stands =>
      rw [if_neg (not_not_intro directory), if_neg (not_or.mpr ⟨isName.1, isName.2.1⟩),
        if_neg isName.2.2, if_neg notSlash]
      simp [stands, notEnd]
  | through node directory isName notSlash stands notLink =>
      rw [if_neg (not_not_intro directory), if_neg (not_or.mpr ⟨isName.1, isName.2.1⟩),
        if_neg isName.2.2, if_neg notSlash, stands]
      cases node with
      | link target => exact absurd rfl (notLink target)
      | file _ _ => rfl
      | directory => rfl
      | pipe => rfl

theorem Turning.of_turn {location : Location} {part : String} {rest : List String} {result : Turn}
    (turned : tree.turn arrival location part rest = result) :
    Turning tree arrival location part rest result :=
  turned ▸ turning tree arrival location part rest

/-- Before growth and after it a way goes on from the same location. -/
theorem turn_onward_grows (grows : Grows before after) {location next : Location}
    {part : String} {rest : List String}
    (onward : before.turn arrival location part rest = .onward next) :
    after.turn arrival location part rest = .onward next := by
  cases Turning.of_turn onward with
  | here directory isHere => exact (Turning.here (grows.isDirectoryAt directory) isHere).eq
  | up directory isUp => exact (Turning.up (grows.isDirectoryAt directory) isUp).eq
  | through node directory isName notSlash stands notLink =>
      obtain ⟨later, standsLater, same⟩ := grows.kept _ node stands
      refine
        (Turning.through later (grows.isDirectoryAt directory) isName notSlash standsLater ?_).eq
      rintro target rfl
      exact notLink target (shape_eq_link same.symm)

theorem turn_aside_grows (grows : Grows before after) {location next : Location}
    {part : String} {rest parts : List String}
    (aside : before.turn arrival location part rest = .aside next parts) :
    after.turn arrival location part rest = .aside next parts := by
  cases Turning.of_turn aside with
  | aside target directory isName notSlash notEnd stands =>
      exact (Turning.aside target (grows.isDirectoryAt directory) isName notSlash notEnd
        (grows.link stands)).eq

/-! ### One part of a walk -/

section Walking

variable {budget : Nat} {location next : Location} {part : String} {rest others : List String}

theorem walk_nil (tree : FileTree) (arrival : Arrival) (budget : Nat) (location : Location) :
    tree.walk arrival budget location [] =
      match tree.node? location with
      | some node => .ok (.occupied location node)
      | none => .error .missing := by
  cases budget <;> rfl

theorem walk_onward (turned : tree.turn arrival location part rest = .onward next) :
    tree.walk arrival budget location (part :: rest) = tree.walk arrival budget next rest := by
  cases budget with
  | zero => rw [walk, along, turned]
  | succ budget => rw [walk, along, turned]

theorem walk_aside (turned : tree.turn arrival location part rest = .aside next others) :
    tree.walk arrival (budget + 1) location (part :: rest) =
      tree.walk arrival budget next others := by
  rw [walk, along, turned]

theorem walk_aside_zero (turned : tree.turn arrival location part rest = .aside next others) :
    tree.walk arrival 0 location (part :: rest) = .error .tooManyLinks := by
  rw [walk, along, turned]

theorem walk_ends {place : Place}
    (turned : tree.turn arrival location part rest = .ends place) :
    tree.walk arrival budget location (part :: rest) = .ok place := by
  cases budget with
  | zero => rw [walk, along, turned]
  | succ budget => rw [walk, along, turned]

theorem walk_breaks {fault : FileFault}
    (turned : tree.turn arrival location part rest = .breaks fault) :
    tree.walk arrival budget location (part :: rest) = .error fault := by
  cases budget with
  | zero => rw [walk, along, turned]
  | succ budget => rw [walk, along, turned]

end Walking

/-- What holds at the end of a walk and is handed back by every turn holds of all walks. -/
theorem walk_induction (tree : FileTree) (arrival : Arrival)
    {motive : Nat → Location → List String → Prop}
    (atEnd : ∀ budget location, motive budget location [])
    (onward : ∀ budget location part rest next,
      tree.turn arrival location part rest = .onward next → motive budget next rest →
        motive budget location (part :: rest))
    (aside : ∀ budget location part rest next others,
      tree.turn arrival location part rest = .aside next others → motive budget next others →
        motive (budget + 1) location (part :: rest))
    (tooMany : ∀ location part rest next others,
      tree.turn arrival location part rest = .aside next others →
        motive 0 location (part :: rest))
    (ends : ∀ budget location part rest place,
      tree.turn arrival location part rest = .ends place → motive budget location (part :: rest))
    (breaks : ∀ budget location part rest fault,
      tree.turn arrival location part rest = .breaks fault →
        motive budget location (part :: rest))
    (budget : Nat) (location : Location) (parts : List String) :
    motive budget location parts := by
  induction budget generalizing location parts with
  | zero =>
      induction parts generalizing location with
      | nil => exact atEnd 0 location
      | cons part rest inductionHypothesis =>
          cases turned : tree.turn arrival location part rest with
          | onward next => exact onward _ _ _ _ _ turned (inductionHypothesis next)
          | aside next others => exact tooMany _ _ _ _ _ turned
          | ends place => exact ends _ _ _ _ _ turned
          | breaks fault => exact breaks _ _ _ _ _ turned
  | succ budget fewerLinks =>
      induction parts generalizing location with
      | nil => exact atEnd (budget + 1) location
      | cons part rest inductionHypothesis =>
          cases turned : tree.turn arrival location part rest with
          | onward next => exact onward _ _ _ _ _ turned (inductionHypothesis next)
          | aside next others => exact aside _ _ _ _ _ _ turned (fewerLinks next others)
          | ends place => exact ends _ _ _ _ _ turned
          | breaks fault => exact breaks _ _ _ _ _ turned

/-! ### Ways that lead somewhere -/

/-- A way leads to a place, turn by turn. No turn of it breaks it off. -/
inductive Leads (tree : FileTree) (arrival : Arrival) :
    Nat → Location → List String → Place → Prop
  | atEnd {budget : Nat} {location : Location} {node : Node} :
      tree.node? location = some node →
      Leads tree arrival budget location [] (.occupied location node)
  | onward {budget : Nat} {location next : Location} {part : String} {rest : List String}
      {place : Place} : Turning tree arrival location part rest (.onward next) →
      Leads tree arrival budget next rest place →
      Leads tree arrival budget location (part :: rest) place
  | aside {budget : Nat} {location next : Location} {part : String} {rest others : List String}
      {place : Place} : Turning tree arrival location part rest (.aside next others) →
      Leads tree arrival budget next others place →
      Leads tree arrival (budget + 1) location (part :: rest) place
  | ends {budget : Nat} {location : Location} {part : String} {rest : List String}
      {place : Place} : Turning tree arrival location part rest (.ends place) →
      Leads tree arrival budget location (part :: rest) place

/-- The turns of a way that leads to a place. -/
theorem leads_of_walk {budget : Nat} {location : Location} {parts : List String} {place : Place}
    (leads : tree.walk arrival budget location parts = .ok place) :
    Leads tree arrival budget location parts place := by
  induction budget, location, parts using walk_induction tree arrival with
  | atEnd budget location =>
      rw [walk_nil] at leads
      cases stands : tree.node? location with
      | none => simp [stands] at leads
      | some node =>
          rw [stands] at leads
          obtain rfl := Except.ok.inj leads
          exact .atEnd stands
  | onward budget location part rest next turned inductionHypothesis =>
      rw [walk_onward turned] at leads
      exact .onward (.of_turn turned) (inductionHypothesis leads)
  | aside budget location part rest next others turned inductionHypothesis =>
      rw [walk_aside turned] at leads
      exact .aside (.of_turn turned) (inductionHypothesis leads)
  | tooMany location part rest next others turned =>
      rw [walk_aside_zero turned] at leads
      simp at leads
  | ends budget location part rest found turned =>
      rw [walk_ends turned] at leads
      obtain rfl := Except.ok.inj leads
      exact .ends (.of_turn turned)
  | breaks budget location part rest fault turned =>
      rw [walk_breaks turned] at leads
      simp at leads

/-- A way that ends at a place ends at the same location after growth. -/
private theorem turn_ends_grows (grows : Grows before after) {location : Location}
    {part : String} {rest : List String} {place : Place} (budget : Nat)
    (ends : before.turn arrival location part rest = .ends place) :
    after.walk arrival budget location (part :: rest) = .ok (after.placeAt place.location) := by
  cases Turning.of_turn ends with
  | free directory isName last absent =>
      subst last
      have directoryLater := grows.isDirectoryAt directory
      -- The name that was free may have been taken since, though not by a link.
      cases taken : after.node? (location ++ [part]) with
      | none =>
          rw [walk_ends (Turning.free directoryLater isName rfl taken).eq]
          simp [Place.location, placeAt_of_vacant taken]
      | some node =>
          have notLink : ∀ target, node ≠ .link target := by
            rintro target rfl
            exact grows.added _ target taken absent
          rw [walk_onward (Turning.through node directoryLater isName (by simp) taken notLink).eq,
            walk_nil, taken]
          simp [Place.location, placeAt_of_node taken]
  | atLink target directory isName last atEnd stands =>
      rw [walk_ends (Turning.atLink target (grows.isDirectoryAt directory) isName last atEnd
        (grows.link stands)).eq]
      simp [Place.location, placeAt_of_node (grows.link stands)]

/-- A way that leads to a place leads to the same location after growth. -/
theorem walk_grows (grows : Grows before after) {budget : Nat} {location : Location}
    {parts : List String} {place : Place}
    (leads : before.walk arrival budget location parts = .ok place) :
    after.walk arrival budget location parts = .ok (after.placeAt place.location) := by
  replace leads := leads_of_walk leads
  induction leads with
  | atEnd stands =>
      obtain ⟨standing, standsLater, _⟩ := grows.kept _ _ stands
      simp [walk_nil, standsLater, Place.location, placeAt_of_node standsLater]
  | onward turning _ inductionHypothesis =>
      rw [walk_onward (turn_onward_grows grows turning.eq)]
      exact inductionHypothesis
  | aside turning _ inductionHypothesis =>
      rw [walk_aside (turn_aside_grows grows turning.eq)]
      exact inductionHypothesis
  | ends turning => exact turn_ends_grows grows _ turning.eq

/-- The place a way leads to is what stands at its location. -/
theorem place_of_walk {budget : Nat} {location : Location} {parts : List String} {place : Place}
    (leads : tree.walk arrival budget location parts = .ok place) :
    place = tree.placeAt place.location :=
  Except.ok.inj (leads.symm.trans (walk_grows (Grows.refl tree) leads))

theorem find_grows (grows : Grows before after) {path : Path} {place : Place}
    (leads : before.find arrival path = .ok place) :
    after.find arrival path = .ok (after.placeAt place.location) := by
  unfold find at leads ⊢
  rw [grows.home]
  by_cases usable : path.isUsable = true
  · rw [if_pos usable] at leads ⊢
    exact walk_grows grows leads
  · simp [usable] at leads

theorem place_of_find {path : Path} {place : Place} (leads : tree.find arrival path = .ok place) :
    place = tree.placeAt place.location :=
  Except.ok.inj (leads.symm.trans (find_grows (Grows.refl tree) leads))

theorem node_of_find {path : Path} {location : Location} {node : Node}
    (leads : tree.find arrival path = .ok (.occupied location node)) :
    tree.node? location = some node :=
  placeAt_eq_occupied_iff.mp (place_of_find leads).symm

theorem vacant_of_find {path : Path} {location : Location}
    (leads : tree.find arrival path = .ok (.vacant location)) :
    tree.node? location = none := by
  have place := place_of_find leads
  unfold placeAt at place
  cases stands : tree.node? location with
  | none => rfl
  | some standing => simp [Place.location, stands] at place

/-- A way leads to a node if it leads to the place where the node is. -/
theorem bind_node_ok_iff {found : Except FileFault Place} {location : Location} {node : Node} :
    found.bind Place.node = .ok (location, node) ↔ found = .ok (.occupied location node) := by
  cases found with
  | error fault => simp [Except.bind]
  | ok place => cases place <;> simp [Except.bind, Place.node]

theorem find_of_findNode {path : Path} {location : Location} {node : Node}
    (leads : tree.findNode path = .ok (location, node)) :
    tree.find .behindLink path = .ok (.occupied location node) :=
  bind_node_ok_iff.mp leads

theorem findNode_of_find {path : Path} {location : Location} {node : Node}
    (leads : tree.find .behindLink path = .ok (.occupied location node)) :
    tree.findNode path = .ok (location, node) :=
  bind_node_ok_iff.mpr leads

theorem findNode_of_find_error {path : Path} {fault : FileFault}
    (broken : tree.find .behindLink path = .error fault) : tree.findNode path = .error fault := by
  unfold findNode
  rw [broken]
  rfl

theorem node_of_findNode {path : Path} {location : Location} {node : Node}
    (leads : tree.findNode path = .ok (location, node)) : tree.node? location = some node :=
  node_of_find (find_of_findNode leads)

/-- What a path leads to is there after growth. -/
theorem findNode_grows (grows : Grows before after) {path : Path} {location : Location}
    {node : Node} (leads : before.findNode path = .ok (location, node)) :
    ∃ later, after.findNode path = .ok (location, later) ∧ later.shape = node.shape := by
  have found := find_of_findNode leads
  obtain ⟨later, stands, same⟩ := grows.kept location node (node_of_find found)
  refine ⟨later, findNode_of_find ?_, same⟩
  rw [find_grows grows found]
  simp [Place.location, placeAt_of_node stands]

theorem reaches_iff {path : Path} : tree.reaches path = true ↔
    ∃ location node, tree.findNode path = .ok (location, node) := by
  unfold reaches
  cases tree.findNode path with
  | error fault => simp [Except.toBool]
  | ok found => exact ⟨fun _ => ⟨found.1, found.2, rfl⟩, fun _ => rfl⟩

theorem reaches_grows (grows : Grows before after) {path : Path}
    (reaches : before.reaches path = true) : after.reaches path = true := by
  obtain ⟨location, node, leads⟩ := reaches_iff.mp reaches
  obtain ⟨later, leadsLater, _⟩ := findNode_grows grows leads
  exact reaches_iff.mpr ⟨location, later, leadsLater⟩

/-! ### Ways that end in another manner -/

/-- Making a file takes the turns of reading it, but for a slash that asks for a directory. -/
private theorem turn_making (tree : FileTree) (location : Location) (part : String)
    (rest : List String) :
    tree.turn .making location part rest = tree.turn .behindLink location part rest ∨
      tree.turn .making location part rest = .breaks .isDirectory := by
  by_cases slash : rest = [""]
  · subst slash
    unfold turn
    by_cases outside : ¬ tree.isDirectoryAt location = true
    · exact .inl (by rw [if_pos outside, if_pos outside])
    · rw [if_neg outside, if_neg outside]
      by_cases isHere : part = "." ∨ part = ""
      · exact .inl (by rw [if_pos isHere, if_pos isHere])
      · rw [if_neg isHere, if_neg isHere]
        by_cases isUp : part = ".."
        · exact .inl (by rw [if_pos isUp, if_pos isUp])
        · exact .inr (by simp [isUp])
  · exact .inl (by simp [turn, slash])

/-- A way that ends at a link takes the turns of one that follows it, but for the last. -/
private theorem turn_atLink (tree : FileTree) (location : Location) (part : String)
    (rest : List String) :
    tree.turn .atLink location part rest = tree.turn .behindLink location part rest ∨
      ∃ target, tree.turn .atLink location part rest =
        .ends (.occupied (location ++ [part]) (.link target)) := by
  cases turned : tree.turn .behindLink location part rest with
  | breaks fault =>
      refine .inl ?_
      cases Turning.of_turn turned with
      | outside outside => exact (Turning.outside outside).eq
      | slash _ _ isSlash => simp at isSlash
      | missing directory isName _ more absent =>
          exact (Turning.missing directory isName (by simp) more absent).eq
  | onward next =>
      refine .inl ?_
      cases Turning.of_turn turned with
      | here directory isHere => exact (Turning.here directory isHere).eq
      | up directory isUp => exact (Turning.up directory isUp).eq
      | through node directory isName _ stands notLink =>
          exact (Turning.through node directory isName (by simp) stands notLink).eq
  | aside next parts =>
      cases Turning.of_turn turned with
      | aside target directory isName _ _ stands =>
          by_cases last : rest = []
          · exact .inr ⟨target, (Turning.atLink target directory isName last rfl stands).eq⟩
          · exact .inl (Turning.aside target directory isName (by simp) (by simp [last]) stands).eq
  | ends place =>
      refine .inl ?_
      cases Turning.of_turn turned with
      | free directory isName last absent =>
          exact (Turning.free directory isName last absent).eq
      | atLink _ _ _ _ atEnd _ => simp at atEnd

/-- A way goes as one that follows links at its end too, or comes to an outcome of some kind, if
that is so of every turn. -/
private theorem walk_alike (outcome : Except FileFault Place → Prop)
    (alike : ∀ location part rest,
      tree.turn arrival location part rest = tree.turn .behindLink location part rest ∨
      (∃ place, tree.turn arrival location part rest = .ends place ∧ outcome (.ok place)) ∨
      ∃ fault, tree.turn arrival location part rest = .breaks fault ∧ outcome (.error fault))
    (budget : Nat) (location : Location) (parts : List String) :
    tree.walk arrival budget location parts = tree.walk .behindLink budget location parts ∨
      outcome (tree.walk arrival budget location parts) := by
  have other {location : Location} {part : String} {rest : List String} (budget : Nat)
      (differs : (∃ place, tree.turn arrival location part rest = .ends place ∧
          outcome (.ok place)) ∨
        ∃ fault, tree.turn arrival location part rest = .breaks fault ∧
          outcome (.error fault)) :
      outcome (tree.walk arrival budget location (part :: rest)) := by
    rcases differs with ⟨place, ends, holds⟩ | ⟨fault, broken, holds⟩
    · rwa [walk_ends ends]
    · rwa [walk_breaks broken]
  induction budget, location, parts using walk_induction tree .behindLink with
  | atEnd budget location =>
      rw [walk_nil, walk_nil]
      exact .inl rfl
  | onward budget location part rest next turned inductionHypothesis =>
      rcases alike location part rest with same | differs
      · rw [walk_onward turned, walk_onward (same.trans turned)]
        exact inductionHypothesis
      · exact .inr (other budget differs)
  | aside budget location part rest next others turned inductionHypothesis =>
      rcases alike location part rest with same | differs
      · rw [walk_aside turned, walk_aside (same.trans turned)]
        exact inductionHypothesis
      · exact .inr (other (budget + 1) differs)
  | tooMany location part rest next others turned =>
      rcases alike location part rest with same | differs
      · exact .inl ((walk_aside_zero (same.trans turned)).trans (walk_aside_zero turned).symm)
      · exact .inr (other 0 differs)
  | ends budget location part rest found turned =>
      rcases alike location part rest with same | differs
      · exact .inl ((walk_ends (same.trans turned)).trans (walk_ends turned).symm)
      · exact .inr (other budget differs)
  | breaks budget location part rest found turned =>
      rcases alike location part rest with same | differs
      · exact .inl ((walk_breaks (same.trans turned)).trans (walk_breaks turned).symm)
      · exact .inr (other budget differs)

theorem find_making (tree : FileTree) (path : Path) :
    tree.find .making path = tree.find .behindLink path ∨
      tree.find .making path = .error .isDirectory := by
  unfold find
  split
  · refine walk_alike (fun found => found = .error .isDirectory) ?_ _ _ _
    intro location part rest
    rcases turn_making tree location part rest with same | broken
    · exact .inl same
    · exact .inr (.inr ⟨_, broken, rfl⟩)
  · exact .inl rfl

theorem find_atLink (tree : FileTree) (path : Path) :
    tree.find .atLink path = tree.find .behindLink path ∨
      ∃ location target, tree.find .atLink path = .ok (.occupied location (.link target)) := by
  unfold find
  split
  · refine walk_alike (fun found =>
      ∃ location target, found = .ok (.occupied location (.link target))) ?_ _ _ _
    intro location part rest
    rcases turn_atLink tree location part rest with same | ⟨target, ends⟩
    · exact .inl same
    · exact .inr (.inl ⟨_, ends, _, target, rfl⟩)
  · exact .inl rfl

/-- Where a file is made is where it is read. -/
theorem find_behindLink_of_making {path : Path} {place : Place}
    (leads : tree.find .making path = .ok place) : tree.find .behindLink path = .ok place := by
  rcases find_making tree path with same | broken
  · rw [← same, leads]
  · rw [broken] at leads
    simp at leads

/-- A way that does not end at a link leads to the same place if links are followed. -/
theorem find_behindLink_of_atLink {path : Path} {place : Place}
    (leads : tree.find .atLink path = .ok place)
    (notLink : ∀ location target, place ≠ .occupied location (.link target)) :
    tree.find .behindLink path = .ok place := by
  rcases find_atLink tree path with same | ⟨location, target, link⟩
  · rw [← same, leads]
  · rw [leads, Except.ok.injEq] at link
    exact absurd link (notLink location target)

/-- A regular file is read where it stands. -/
theorem findNode_of_regular {path : Path} (regular : tree.inspect path = .ok .regular) :
    ∃ location content executable,
      tree.findNode path = .ok (location, .file content executable) := by
  unfold inspect at regular
  cases leads : tree.find .atLink path with
  | error fault => simp [leads, Except.bind, Except.map] at regular
  | ok place =>
      cases place with
      | vacant free => simp [leads, Except.bind, Except.map, Place.node] at regular
      | occupied location node =>
          cases node with
          | file content executable =>
              refine ⟨location, content, executable, ?_⟩
              unfold findNode
              rw [find_behindLink_of_atLink leads (by simp)]
              rfl
          | directory => simp [leads, Except.bind, Except.map, Place.node, Node.kind] at regular
          | link target => simp [leads, Except.bind, Except.map, Place.node, Node.kind] at regular
          | pipe => simp [leads, Except.bind, Except.map, Place.node, Node.kind] at regular

end TemplateBundle.FileTree
