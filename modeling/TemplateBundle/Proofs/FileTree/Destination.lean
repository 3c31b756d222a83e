import TemplateBundle.Proofs.FileTree.Directories

/-!
Contract: where a path leads, now or once directories are made.

Owns: faults that no growth of a tree mends, the destination of a path (a place, or names that are
free below a directory), and what a path leads to in every tree that has grown from the one in
which its destination is known.
-/

namespace TemplateBundle.FileTree

variable {tree before after : FileTree} {arrival : Arrival} {budget : Nat}
  {location base : Location} {parts rest names : List String} {fault : FileFault} {path : Path}
  {place : Place}

/-! ### Faults that last -/

/-- A location that a way goes on from is that of a node. -/
theorem stands_of_onward (wellFormed : tree.WellFormed) {part : String} {next : Location}
    (turned : tree.turn arrival location part rest = .onward next) : tree.node? next ≠ none := by
  cases Turning.of_turn turned with
  | here directory _ => simp [isDirectoryAt_iff.mp directory]
  | up directory _ =>
      simp [isDirectoryAt_iff.mp (wellFormed.parent (isDirectoryAt_iff.mp directory))]
  | through node _ _ _ stands _ => simp [stands]

/-- Where a link's target is walked from there is a node, if there is one where the link is. -/
theorem stands_startOf (text : String) (starts : tree.node? location ≠ none) :
    tree.node? (startOf text location) ≠ none := by
  unfold startOf
  split
  · simp [node?_root]
  · exact starts

/-- A way that is broken off by something that stands there is broken off after growth too. -/
theorem walk_error_grows (wellFormed : before.WellFormed) (grows : Grows before after)
    (lasting : fault ≠ .missing) (starts : before.node? location ≠ none)
    (broken : before.walk arrival budget location parts = .error fault) :
    after.walk arrival budget location parts = .error fault := by
  induction budget, location, parts using walk_induction before arrival with
  | atEnd budget location =>
      rw [walk_nil] at broken
      cases stands : before.node? location with
      | none => exact absurd stands starts
      | some node => simp [stands] at broken
  | onward budget location part rest next turned inductionHypothesis =>
      rw [walk_onward turned] at broken
      rw [walk_onward (turn_onward_grows grows turned)]
      exact inductionHypothesis (stands_of_onward wellFormed turned) broken
  | aside budget location part rest next others turned inductionHypothesis =>
      rw [walk_aside turned] at broken
      rw [walk_aside (turn_aside_grows grows turned)]
      refine inductionHypothesis ?_ broken
      cases Turning.of_turn turned with
      | aside target _ _ _ _ _ => exact stands_startOf target starts
  | tooMany location part rest next others turned =>
      rw [walk_aside_zero turned] at broken
      rw [walk_aside_zero (turn_aside_grows grows turned)]
      exact broken
  | ends budget location part rest found turned =>
      rw [walk_ends turned] at broken
      simp at broken
  | breaks budget location part rest found turned =>
      rw [walk_breaks turned] at broken
      obtain rfl := Except.error.inj broken
      cases Turning.of_turn turned with
      | outside outside =>
          exact walk_breaks (Turning.outside (grows.notDirectory starts outside)).eq
      | slash directory isName isSlash =>
          exact walk_breaks (Turning.slash (grows.isDirectoryAt directory) isName isSlash).eq
      | missing _ _ _ _ _ => exact absurd rfl lasting

/-- Beyond what is missing everything is missing. -/
theorem walk_append_missing (wellFormed : tree.WellFormed) {others : List String}
    (more : others ≠ []) (starts : tree.node? location ≠ none)
    (missing : (tree.walk .behindLink budget location parts).bind Place.node = .error .missing) :
    tree.walk .behindLink budget location (parts ++ others) = .error .missing := by
  induction budget, location, parts using walk_induction tree .behindLink with
  | atEnd budget location =>
      rw [walk_nil] at missing
      cases stands : tree.node? location with
      | none => exact absurd stands starts
      | some node => simp [stands, Except.bind, Place.node] at missing
  | onward budget location part rest next turned inductionHypothesis =>
      rw [walk_onward turned] at missing
      have tail := inductionHypothesis (stands_of_onward wellFormed turned) missing
      rw [List.cons_append]
      cases Turning.of_turn turned with
      | here directory isHere =>
          rw [walk_onward (Turning.here directory isHere).eq]
          exact tail
      | up directory isUp =>
          rw [walk_onward (Turning.up directory isUp).eq]
          exact tail
      | through node directory isName _ stands notLink =>
          rw [walk_onward (Turning.through node directory isName (by simp) stands notLink).eq]
          exact tail
  | aside budget location part rest next turn turned inductionHypothesis =>
      rw [walk_aside turned] at missing
      rw [List.cons_append]
      cases Turning.of_turn turned with
      | aside target directory isName _ _ stands =>
          rw [walk_aside (Turning.aside target directory isName (by simp) (by simp) stands).eq,
            ← List.append_assoc]
          exact inductionHypothesis (stands_startOf target starts) missing
  | tooMany location part rest next turn turned =>
      rw [walk_aside_zero turned] at missing
      simp [Except.bind] at missing
  | ends budget location part rest found turned =>
      cases Turning.of_turn turned with
      | free directory isName last absent =>
          rw [last, List.singleton_append]
          exact walk_breaks (Turning.missing directory isName (by simp) more absent).eq
      | atLink _ _ _ _ atEnd _ => simp at atEnd
  | breaks budget location part rest found turned =>
      rw [walk_breaks turned] at missing
      obtain rfl := Except.error.inj missing
      cases Turning.of_turn turned with
      | missing directory isName _ last absent =>
          exact walk_breaks (Turning.missing directory isName (by simp) (by simp [more]) absent).eq

/-- Where paths start, there is a node. -/
theorem stands_startOfPath (wellFormed : tree.WellFormed) (path : Path) :
    tree.isDirectoryAt (tree.startOfPath path) = true := by
  unfold startOfPath
  split
  · exact wellFormed.home
  · exact isDirectoryAt_root tree

theorem startOfPath_grows (grows : Grows before after) (path : Path) :
    after.startOfPath path = before.startOfPath path := by
  unfold startOfPath
  rw [grows.home]

theorem find_unusable (unusable : path.isUsable = false) :
    tree.find arrival path = .error .unusablePath := by
  unfold find
  rw [unusable]
  rfl

theorem find_error_grows (wellFormed : before.WellFormed) (grows : Grows before after)
    (lasting : fault ≠ .missing) (broken : before.find arrival path = .error fault) :
    after.find arrival path = .error fault := by
  cases usable : path.isUsable with
  | false =>
      rw [find_unusable usable] at broken ⊢
      exact broken
  | true =>
      rw [find_eq_walk usable] at broken ⊢
      rw [startOfPath_grows grows]
      refine walk_error_grows wellFormed grows lasting ?_ broken
      simp [isDirectoryAt_iff.mp (stands_startOfPath wellFormed path)]

/-! ### Destinations -/

/-- The place that a path leads to, whether or not it can be asked for. -/
def way (tree : FileTree) (path : Path) : Except FileFault Place :=
  tree.walk .behindLink linkBudget (tree.startOfPath path) path.parts

/-- Where a path leads, now or once directories are made; nowhere if it is broken off by what
stands there. -/
inductive Destination (tree : FileTree) (path : Path) : Option Location → Prop
  | there {place : Place} :
      tree.way path = .ok place → Destination tree path (some place.location)
  /-- It leads to a directory, and goes on along names of which the first is free. -/
  | beyond {front rest : List String} {first : String} {base : Location} :
      path.parts = front ++ first :: rest →
      (tree.way ⟨path.slashes, front⟩).bind Place.node = .ok (base, .directory) →
      (∀ name ∈ first :: rest, IsName name) → tree.node? (base ++ [first]) = none →
      Destination tree path (some (base ++ first :: rest))
  | blocked {fault : FileFault} :
      tree.way path = .error fault → fault ≠ .missing → Destination tree path none

/-- A tree has grown, and what was added on the way to a location is directories. -/
structure GrowsToward (before after : FileTree) (location : Location) : Prop where
  grows : Grows before after
  wellFormed : after.WellFormed
  clear : ∀ above, above <+: location → above ≠ location → before.node? above = none →
    after.node? above = none ∨ after.isDirectoryAt above = true

theorem GrowsToward.refl (wellFormed : tree.WellFormed) (location : Location) :
    GrowsToward tree tree location where
  grows := .refl tree
  wellFormed := wellFormed
  clear := fun _ _ _ absent => .inl absent

theorem find_eq_way (usable : path.isUsable = true) :
    tree.find .behindLink path = tree.way path :=
  find_eq_walk usable

theorem way_grows (grows : Grows before after) (leads : before.way path = .ok place) :
    after.way path = .ok (after.placeAt place.location) := by
  unfold way at leads ⊢
  rw [startOfPath_grows grows]
  exact walk_grows grows leads

theorem way_error_grows (wellFormed : before.WellFormed) (grows : Grows before after)
    (lasting : fault ≠ .missing) (broken : before.way path = .error fault) :
    after.way path = .error fault := by
  unfold way at broken ⊢
  rw [startOfPath_grows grows]
  refine walk_error_grows wellFormed grows lasting ?_ broken
  simp [isDirectoryAt_iff.mp (stands_startOfPath wellFormed path)]

theorem passes_of_way {node : Node}
    (leads : (tree.way path).bind Place.node = .ok (location, node)) :
    ∃ left, Passes tree linkBudget (tree.startOfPath path) path.parts left location :=
  passes_of_walk (bind_node_ok_iff.mp leads)

theorem directory_of_way
    (leads : (tree.way path).bind Place.node = .ok (base, .directory)) :
    tree.isDirectoryAt base = true := by
  have place := place_of_walk (bind_node_ok_iff.mp leads)
  exact isDirectoryAt_iff.mpr (placeAt_eq_occupied_iff.mp place.symm)

/-! ### Names below a directory -/

/-- Where nothing stands, nothing stands below. -/
theorem WellFormed.absent_below (wellFormed : tree.WellFormed) {above : Location}
    (inside : above <+: location) (absent : tree.node? above = none) :
    tree.node? location = none := by
  obtain ⟨rest, rfl⟩ := inside
  cases stands : tree.node? (above ++ rest) with
  | none => rfl
  | some node =>
      by_cases last : rest = []
      · rw [last, List.append_nil, absent] at stands
        exact absurd stands (by simp)
      · have directory := isDirectoryAt_iff.mp (wellFormed.above stands last)
        rw [absent] at directory
        exact absurd directory (by simp)

theorem prefix_of_cons (base : Location) (first : String) (rest : List String) :
    base ++ [first] <+: base ++ first :: rest :=
  ⟨rest, by simp⟩

/-- Names that lead to a directory are passed. -/
theorem WellFormed.passes_names (wellFormed : tree.WellFormed)
    (isNames : ∀ name ∈ names, IsName name)
    (directory : tree.isDirectoryAt (base ++ names) = true) :
    Passes tree budget base names budget (base ++ names) := by
  have within (inner : List String) (inside : inner <+: names) :
      tree.isDirectoryAt (base ++ inner) = true := by
    obtain ⟨others, rfl⟩ := inside
    by_cases none : others = []
    · rwa [none, List.append_nil] at directory
    · rw [← List.append_assoc] at directory
      exact wellFormed.above (isDirectoryAt_iff.mp directory) none
  have start : tree.isDirectoryAt base = true := by
    have atBase := within [] (List.nil_prefix)
    rwa [List.append_nil] at atBase
  exact FileTree.passes_names isNames start within

/-- Names without links among them lead to their own location, if they lead anywhere. -/
theorem location_of_walk_names (isNames : ∀ name ∈ names, IsName name)
    (notLinks : ∀ inner, inner <+: names → inner ≠ [] → ∀ target,
      tree.node? (base ++ inner) ≠ some (.link target))
    (leads : tree.walk arrival budget base names = .ok place) :
    place.location = base ++ names := by
  replace leads := leads_of_walk leads
  induction leads with
  | atEnd _ => simp [Place.location]
  | onward turning _ inductionHypothesis =>
      have isName := isNames _ List.mem_cons_self
      cases turning with
      | here _ isHere => exact absurd isHere (not_or.mpr ⟨isName.1, isName.2.1⟩)
      | up _ isUp => exact absurd isUp isName.2.2
      | through node _ _ _ _ _ =>
          rw [List.append_cons]
          refine inductionHypothesis
            (fun other member => isNames other (List.mem_cons_of_mem _ member)) ?_
          intro inner inside _ target
          rw [← List.append_cons]
          exact notLinks _ (List.cons_prefix_cons.mpr ⟨rfl, inside⟩) (by simp) target
  | aside turning _ _ =>
      cases turning with
      | aside target _ _ _ _ stands => exact absurd stands (notLinks [_] ⟨_, rfl⟩ (by simp) target)
  | ends turning =>
      cases turning with
      | free _ _ last _ =>
          rw [last]
          rfl
      | atLink target _ _ _ _ stands => exact absurd stands (notLinks [_] ⟨_, rfl⟩ (by simp) target)

/-- Names of which the last is free lead to nothing, if nothing but directories is among them. -/
theorem walk_names_missing (start : tree.isDirectoryAt base = true)
    (isNames : ∀ name ∈ names, IsName name) (absent : tree.node? (base ++ names) = none)
    (clear : ∀ inner, inner <+: names → inner ≠ names →
      tree.node? (base ++ inner) = none ∨ tree.isDirectoryAt (base ++ inner) = true) :
    (tree.walk .behindLink budget base names).bind Place.node = .error .missing := by
  induction names generalizing base with
  | nil =>
      rw [List.append_nil] at absent
      rw [isDirectoryAt_iff, absent] at start
      exact absurd start (by simp)
  | cons name rest inductionHypothesis =>
      have isName := isNames name (by simp)
      by_cases last : rest = []
      · subst last
        rw [walk_ends (Turning.free start isName rfl absent).eq]
        rfl
      · rcases clear [name] ⟨rest, rfl⟩ (by simpa using Ne.symm last) with free | directory
        · rw [walk_breaks (Turning.missing start isName (by simp) last free).eq]
          rfl
        · rw [walk_name start isName (by simp) (isDirectoryAt_iff.mp directory) (by simp)]
          rw [List.append_cons] at absent
          refine inductionHypothesis directory
            (fun other member => isNames other (List.mem_cons_of_mem _ member)) absent ?_
          intro inner inside different
          have whole := clear (name :: inner) (List.cons_prefix_cons.mpr ⟨rfl, inside⟩)
            (by simpa using different)
          rwa [List.append_cons] at whole

/-! ### Destinations in a tree that has grown -/

section Beyond

variable {front : List String} {first : String}

/-- Beyond a directory the way of a path is that of the free names. -/
private theorem walk_beyond (grows : Grows before after)
    (parts : path.parts = front ++ first :: rest)
    (leads : (before.way ⟨path.slashes, front⟩).bind Place.node = .ok (base, .directory))
    (notSlash : first :: rest ≠ [""]) :
    ∃ left, after.walk arrival linkBudget (after.startOfPath path) path.parts =
      after.walk arrival left base (first :: rest) := by
  obtain ⟨left, passes⟩ := passes_of_way leads
  have later := passes.grows grows
  refine ⟨left, ?_⟩
  rw [parts, startOfPath_grows grows]
  exact later.walk (by simp) fun slash => notSlash slash.2

/-- No link has been added at or below a free name. -/
private theorem not_link_beyond (wellFormed : before.WellFormed) (grows : Grows before after)
    (absent : before.node? (base ++ [first]) = none) {inner : List String}
    (inside : inner <+: first :: rest) (more : inner ≠ []) (target : String) :
    after.node? (base ++ inner) ≠ some (.link target) := by
  intro stands
  obtain ⟨others, whole⟩ := inside
  obtain ⟨name, names, rfl⟩ := List.exists_cons_of_ne_nil more
  obtain ⟨rfl, _⟩ := List.cons.inj whole
  exact grows.added _ target stands (wellFormed.absent_below (prefix_of_cons _ _ names) absent)

theorem not_slash_of_isName (isNames : ∀ name ∈ first :: rest, IsName name) :
    first :: rest ≠ [""] := by
  intro slash
  exact (isNames first (by simp)).2.1 (List.cons.inj slash).1

end Beyond

/-- If a path leads anywhere in a tree that has grown, it leads to its destination. -/
theorem location_of_destination (wellFormed : before.WellFormed) {target : Option Location}
    (destination : before.Destination path target) (grows : Grows before after)
    (leads : after.find .behindLink path = .ok place) : target = some place.location := by
  rw [find_eq_way (usable_of_find leads)] at leads
  cases destination with
  | there ledBefore =>
      have later := way_grows grows ledBefore
      rw [leads] at later
      rw [Except.ok.inj later, placeAt_location]
  | beyond parts ledBefore isNames absent =>
      obtain ⟨left, same⟩ := walk_beyond grows parts ledBefore (not_slash_of_isName isNames)
      unfold way at leads
      rw [same] at leads
      rw [location_of_walk_names isNames
        (fun inner inside more => not_link_beyond wellFormed grows absent inside more) leads]
  | blocked broken lasting =>
      rw [way_error_grows wellFormed grows lasting broken] at leads
      simp at leads

/-- A path leads to what stands at its destination. -/
theorem findNode_of_destination (wellFormed : before.WellFormed)
    (destination : before.Destination path (some location))
    (toward : GrowsToward before after location) (usable : path.isUsable = true) :
    after.findNode path = (after.placeAt location).node := by
  unfold findNode
  rw [find_eq_way usable]
  generalize isTarget : some location = target at destination
  cases destination with
  | there ledBefore =>
      obtain rfl := Option.some.inj isTarget
      rw [way_grows toward.grows ledBefore]
      rfl
  | @beyond front rest first base parts ledBefore isNames absent =>
      obtain rfl := Option.some.inj isTarget
      obtain ⟨left, same⟩ :=
        walk_beyond toward.grows parts ledBefore (not_slash_of_isName isNames)
      unfold way
      rw [same]
      cases stands : after.node? (base ++ first :: rest) with
      | some node =>
          have notLink : ∀ target, node ≠ .link target := by
            rintro target rfl
            exact not_link_beyond wellFormed toward.grows absent (List.prefix_refl _) (by simp)
              target stands
          rw [toward.wellFormed.walk_names (by simp) isNames stands (.inr notLink),
            placeAt_of_node stands]
          rfl
      | none =>
          have start := toward.grows.isDirectoryAt (directory_of_way ledBefore)
          rw [walk_names_missing start isNames stands, placeAt_of_vacant stands]
          · rfl
          · intro inner inside different
            by_cases none : inner = []
            · rw [none, List.append_nil]
              exact .inr start
            · obtain ⟨name, names, rfl⟩ := List.exists_cons_of_ne_nil none
              obtain ⟨others, whole⟩ := inside
              obtain ⟨rfl, _⟩ := List.cons.inj whole
              refine toward.clear _ ?_ ?_
                (wellFormed.absent_below (prefix_of_cons _ _ names) absent)
              · rw [← whole]
                exact ⟨others, by simp⟩
              · intro equal
                exact different (List.append_cancel_left equal)
  | blocked broken lasting => simp at isTarget

/-- A path that is broken off leads nowhere in any tree that has grown. -/
theorem find_of_blocked (destination : tree.Destination path none) :
    ∃ fault, fault ≠ .missing ∧ tree.find .behindLink path = .error fault := by
  cases usable : path.isUsable with
  | false => exact ⟨.unusablePath, by simp, find_unusable usable⟩
  | true =>
      rw [find_eq_way usable]
      generalize isTarget : none = target at destination
      cases destination with
      | there _ => simp at isTarget
      | beyond _ _ _ _ => simp at isTarget
      | blocked broken lasting => exact ⟨_, lasting, broken⟩

/-- From a directory a name that is no link leads somewhere. -/
theorem exists_walk_name {name : String} (directory : tree.isDirectoryAt base = true)
    (isName : IsName name)
    (notLink : ∀ target, tree.node? (base ++ [name]) ≠ some (.link target)) :
    ∃ place, tree.walk .behindLink budget base [name] = .ok place := by
  cases stands : tree.node? (base ++ [name]) with
  | none => exact ⟨_, walk_ends (Turning.free directory isName rfl stands).eq⟩
  | some node =>
      have ordinary : ∀ target, node ≠ .link target := by
        rintro target rfl
        exact notLink target stands
      rw [walk_name directory isName (by simp) stands ordinary, walk_nil, stands]
      exact ⟨_, rfl⟩

/-- Names without links among them lead below the directory that comes before them, if the whole
way leads to a directory. -/
private theorem directory_below {left : Nat} {start : Location} {front : List String}
    (passes : Passes tree linkBudget start front left base)
    (directory : tree.isDirectoryAt base = true) (isNames : ∀ name ∈ names, IsName name)
    (notLinks : ∀ inner, inner <+: names → inner ≠ [] → ∀ target,
      tree.node? (base ++ inner) ≠ some (.link target))
    (leads : (tree.walk .behindLink linkBudget start (front ++ names)).bind Place.node =
      .ok (location, .directory)) :
    tree.isDirectoryAt (base ++ names) = true := by
  by_cases none : names = []
  · rwa [none, List.append_nil]
  · rw [passes.walk none (by simp), bind_node_ok_iff] at leads
    have sameHere : location = base ++ names := location_of_walk_names isNames notLinks leads
    rw [← sameHere, isDirectoryAt_iff]
    exact placeAt_eq_occupied_iff.mp (place_of_walk leads).symm

/-- A path that went on along free names leads somewhere once its parent leads to a directory. -/
private theorem exists_way_beyond {front : List String} {first : String}
    (wellFormed : before.WellFormed) (grows : Grows before after)
    (wellFormedAfter : after.WellFormed) (parts : path.parts = front ++ first :: rest)
    (leads : (before.way ⟨path.slashes, front⟩).bind Place.node = .ok (base, .directory))
    (isNames : ∀ name ∈ first :: rest, IsName name) (absent : before.node? (base ++ [first]) = none)
    (reached : after.reachesDirectory path.parent = true) :
    ∃ place, after.way path = .ok place := by
  obtain ⟨here, leadsParent⟩ := reachesDirectory_iff.mp reached
  obtain ⟨inner, last, names⟩ : ∃ inner last, first :: rest = inner ++ [last] :=
    ⟨_, _, (List.dropLast_concat_getLast (List.cons_ne_nil first rest)).symm⟩
  have notLink {part : List String} (inside : part <+: inner ++ [last]) (more : part ≠ [])
      (target : String) : after.node? (base ++ part) ≠ some (.link target) :=
    not_link_beyond wellFormed grows absent (by rwa [names]) more target
  have isNamesInner : ∀ name ∈ inner, IsName name :=
    fun name member => isNames name (by rw [names]; simp [member])
  obtain ⟨left, passes⟩ := passes_of_way leads
  have later : Passes after linkBudget (after.startOfPath path) front left base := by
    rw [startOfPath_grows grows]
    exact passes.grows grows
  -- The way of the parent stops before the last name.
  have partsParent : path.parent.parts = front ++ inner := by
    change path.parts.dropLast = _
    rw [parts, names, ← List.append_assoc, List.dropLast_concat]
  have foundParent := find_of_findNode leadsParent
  rw [find_eq_walk (usable_of_find foundParent), partsParent] at foundParent
  have directory : after.isDirectoryAt (base ++ inner) = true :=
    directory_below later (grows.isDirectoryAt (directory_of_way leads)) isNamesInner
      (fun part inside => notLink (inside.trans (List.prefix_append _ _)))
      (bind_node_ok_iff.mpr foundParent)
  have inDirectory : Passes after left base inner left (base ++ inner) :=
    wellFormedAfter.passes_names isNamesInner directory
  have isName : IsName last := isNames last (by rw [names]; simp)
  have notLinkLast (target : String) :
      after.node? (base ++ inner ++ [last]) ≠ some (.link target) := by
    rw [List.append_assoc]
    exact notLink (List.prefix_refl _) (by simp) target
  obtain ⟨place, leadsLast⟩ := exists_walk_name directory isName notLinkLast
  refine ⟨place, ?_⟩
  unfold way
  rw [parts, names, ← List.append_assoc,
    (later.append inDirectory).walk (by simp) (by simp), leadsLast]

/-- In a directory that stands at the end of a path's parent, nothing is missing on the way to
where a file is made. -/
theorem find_making_of_parent (wellFormed : before.WellFormed) {target : Option Location}
    (destination : before.Destination path target) (grows : Grows before after)
    (wellFormedAfter : after.WellFormed)
    (reached : after.reachesDirectory path.parent = true) :
    after.find .making path ≠ .error .missing := by
  suffices notMissing : after.find .behindLink path ≠ .error .missing by
    rcases find_making after path with same | isDirectory
    · rwa [same]
    · simp [isDirectory]
  cases usable : path.isUsable with
  | false => simp [find_unusable usable]
  | true =>
      rw [find_eq_way usable]
      cases destination with
      | there leads => simp [way_grows grows leads]
      | blocked broken lasting =>
          rw [way_error_grows wellFormed grows lasting broken]
          simpa using lasting
      | beyond parts leads isNames absent =>
          obtain ⟨place, goes⟩ :=
            exists_way_beyond wellFormed grows wellFormedAfter parts leads isNames absent reached
          simp [goes]

end TemplateBundle.FileTree
