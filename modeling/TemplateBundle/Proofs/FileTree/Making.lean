import TemplateBundle.Proofs.FileTree.Destination

/-!
Contract: the directories above a path, made in any tree that has grown.

Owns: trees to which directories are added, and that making the directories above a path whose
destination is known gives the same answer in all trees that have grown, and adds the same
directories where they are not there.
-/

namespace TemplateBundle.FileTree

variable {tree before after : FileTree} {location other base : Location} {path : Path}
  {locations made : List Location} {slashes : Nat} {reply : Except FileFault Unit}

/-- The tree with a directory at a location, if nothing stands there. -/
def withDirectory (tree : FileTree) (location : Location) : FileTree :=
  match tree.node? location with
  | none => tree.set location .directory
  | some _ => tree

/-- The tree with directories at some locations where nothing stands. -/
def withDirectories (tree : FileTree) (locations : List Location) : FileTree :=
  locations.foldl withDirectory tree

/-- Nothing but directories stands at some locations. -/
def IsClear (tree : FileTree) (locations : List Location) : Prop :=
  ∀ location ∈ locations, tree.node? location = none ∨ tree.isDirectoryAt location = true

theorem withDirectory_of_vacant (absent : tree.node? location = none) :
    tree.withDirectory location = tree.set location .directory := by
  unfold withDirectory
  rw [absent]

theorem withDirectory_of_stands {node : Node} (stands : tree.node? location = some node) :
    tree.withDirectory location = tree := by
  unfold withDirectory
  rw [stands]

theorem grows_withDirectory (tree : FileTree) (location : Location) :
    Grows tree (tree.withDirectory location) := by
  cases stands : tree.node? location with
  | none =>
      rw [withDirectory_of_vacant stands]
      exact grows_set (ne_root_of_vacant stands) (by simp) (by simp [stands])
  | some node =>
      rw [withDirectory_of_stands stands]
      exact Grows.refl tree

theorem grows_withDirectories (tree : FileTree) (locations : List Location) :
    Grows tree (tree.withDirectories locations) := by
  induction locations generalizing tree with
  | nil => exact Grows.refl tree
  | cons location rest inductionHypothesis =>
      exact (grows_withDirectory tree location).trans (inductionHypothesis _)

theorem node?_withDirectory :
    (tree.withDirectory location).node? other =
      if other = location ∧ tree.node? location = none then some .directory
      else tree.node? other := by
  cases stands : tree.node? location with
  | none =>
      rw [withDirectory_of_vacant stands, node?_set (ne_root_of_vacant stands)]
      simp
  | some node =>
      rw [withDirectory_of_stands stands]
      simp

theorem node?_withDirectories :
    (tree.withDirectories locations).node? other =
      if other ∈ locations ∧ tree.node? other = none then some .directory
      else tree.node? other := by
  induction locations generalizing tree with
  | nil => simp [withDirectories]
  | cons location rest inductionHypothesis =>
      change ((tree.withDirectory location).withDirectories rest).node? other = _
      rw [inductionHypothesis, node?_withDirectory]
      by_cases here : other = location
      · subst here
        cases stands : tree.node? other with
        | none => simp
        | some node => simp
      · simp [here]

theorem withDirectories_concat :
    tree.withDirectories (locations ++ [location]) =
      (tree.withDirectories locations).withDirectory location :=
  List.foldl_append

/-- Directories that are added leave nothing else at a location. -/
theorem clear_withDirectories
    (clear : tree.node? location = none ∨ tree.isDirectoryAt location = true) :
    (tree.withDirectories locations).node? location = none ∨
      (tree.withDirectories locations).isDirectoryAt location = true := by
  rcases clear with absent | directory
  · rw [isDirectoryAt_iff, node?_withDirectories, absent]
    by_cases member : location ∈ locations
    · exact .inr (if_pos ⟨member, rfl⟩)
    · exact .inl (if_neg fun both => member both.1)
  · exact .inr ((grows_withDirectories tree locations).isDirectoryAt directory)

theorem IsClear.isDirectoryAt (clear : tree.IsClear locations) (member : location ∈ locations) :
    (tree.withDirectories locations).isDirectoryAt location = true := by
  rw [isDirectoryAt_iff, node?_withDirectories]
  rcases clear location member with absent | directory
  · rw [if_pos ⟨member, absent⟩]
  · rw [isDirectoryAt_iff] at directory
    simp [directory]

/-! ### One directory -/

theorem makeOne_reached (reached : tree.reachesDirectory path = true) :
    tree.makeOne path = (.ok (), tree) := by
  unfold makeOne
  cases made : tree.makeDirectory path with
  | error fault =>
      dsimp only
      rw [if_pos reached]
  | ok changed =>
      -- The directory is there, so that its name is not free.
      obtain ⟨free, vacant, _⟩ := makeDirectory_ok made
      obtain ⟨location, leads⟩ := reachesDirectory_iff.mp reached
      have behind := find_behindLink_of_atLink vacant (by simp)
      rw [find_of_findNode leads] at behind
      simp at behind

theorem makeOne_free (leads : tree.find .atLink path = .ok (.vacant location)) :
    tree.makeOne path = (.ok (), tree.withDirectory location) := by
  rw [withDirectory_of_vacant (vacant_of_find leads)]
  unfold makeOne makeDirectory
  rw [leads]

/-- A path that leads to what is no directory, or is broken off by something that stands there. -/
def IsStuck (tree : FileTree) (path : Path) : Prop :=
  (∃ fault, fault ≠ .missing ∧ tree.find .behindLink path = .error fault) ∨
    ∃ location node, node ≠ .directory ∧
      tree.find .behindLink path = .ok (.occupied location node)

theorem IsStuck.not_reached (wellFormed : before.WellFormed) (stuck : before.IsStuck path)
    (grows : Grows before after) : after.reachesDirectory path = false := by
  rw [← Bool.not_eq_true, reachesDirectory_iff]
  rintro ⟨location, leads⟩
  have found := find_of_findNode leads
  rcases stuck with ⟨fault, lasting, broken⟩ | ⟨other, node, notDirectory, ledBefore⟩
  · rw [find_error_grows wellFormed grows lasting broken] at found
    simp at found
  · obtain ⟨later, leadsLater, same⟩ := findNode_grows grows (findNode_of_find ledBefore)
    rw [leads, Except.ok.injEq, Prod.mk.injEq] at leadsLater
    rw [← leadsLater.2] at same
    exact notDirectory (shape_eq_directory same.symm)

/-- Where a path is stuck no directory is made, for the same reason in all trees that have
grown. -/
theorem makeOne_of_stuck (wellFormed : before.WellFormed) (stuck : before.IsStuck path) :
    ∃ fault, (∀ after, Grows before after → after.makeOne path = (.error fault, after)) ∧
      ∀ after, Grows before after → after.reaches path = true → fault = .alreadyExists := by
  have fails {after : FileTree} {fault : FileFault} (grows : Grows before after)
      (made : after.makeDirectory path = .error fault) :
      after.makeOne path = (.error fault, after) := by
    unfold makeOne
    rw [made]
    dsimp only
    rw [if_neg (by simp [stuck.not_reached wellFormed grows])]
  cases found : before.find .atLink path with
  | ok place =>
      cases place with
      | vacant free =>
          have behind := find_behindLink_of_atLink found (by simp)
          rcases stuck with ⟨fault, _, broken⟩ | ⟨other, node, _, leads⟩
          · simp [behind] at broken
          · simp [behind] at leads
      | occupied location node =>
          refine ⟨.alreadyExists, fun after grows => fails grows ?_, fun _ _ _ => rfl⟩
          obtain ⟨later, stands, _⟩ := grows.kept location node (node_of_find found)
          have leads := find_grows grows found
          rw [Place.location, placeAt_of_node stands] at leads
          unfold makeDirectory
          rw [leads]
  | error fault =>
      have behind : before.find .behindLink path = .error fault := by
        rcases find_atLink before path with same | ⟨location, target, link⟩
        · rw [← same, found]
        · simp [found] at link
      have lasting : fault ≠ .missing := by
        rcases stuck with ⟨other, lasting, broken⟩ | ⟨other, node, _, leads⟩
        · rw [behind, Except.error.injEq] at broken
          rwa [broken]
        · simp [behind] at leads
      refine ⟨fault, fun after grows => fails grows ?_, fun after grows reached => ?_⟩
      · unfold makeDirectory
        rw [find_error_grows wellFormed grows lasting found]
      · obtain ⟨location, node, leads⟩ := reaches_iff.mp reached
        have foundLater := find_of_findNode leads
        rw [find_error_grows wellFormed grows lasting behind] at foundLater
        simp at foundLater

/-! ### Directories above one another -/

/-- A name that is taken above a directory is no fault yet. -/
def forgiven : Except FileFault Unit → Except FileFault Unit
  | .error .alreadyExists => .ok ()
  | reply => reply

/-- In every tree that has grown and is clear there, making directories gives one reply and leaves
directories at some locations. If they are reached already, nothing is added. -/
structure Makes (before : FileTree) (slashes : Nat) (parts : List String)
    (reply : Except FileFault Unit) (made : List Location) : Prop where
  makes : ∀ after, Grows before after → after.WellFormed → after.IsClear made →
    makeDirectoriesUp slashes after parts = (reply, after.withDirectories made)
  reached : ∀ after, Grows before after → after.WellFormed →
    after.reaches ⟨slashes, parts.reverse⟩ = true →
      after.withDirectories made = after ∧ forgiven reply = .ok ()

theorem reachesDirectory_grows (grows : Grows before after)
    (reached : before.reachesDirectory path = true) : after.reachesDirectory path = true := by
  obtain ⟨location, leads⟩ := reachesDirectory_iff.mp reached
  obtain ⟨later, leadsLater, same⟩ := findNode_grows grows leads
  rw [shape_eq_directory same] at leadsLater
  exact reachesDirectory_iff.mpr ⟨location, leadsLater⟩

theorem reaches_of_directory (reached : tree.reachesDirectory path = true) :
    tree.reaches path = true := by
  obtain ⟨location, leads⟩ := reachesDirectory_iff.mp reached
  exact reaches_iff.mpr ⟨location, _, leads⟩

/-- If a path leads somewhere, so do those above it. -/
theorem reaches_above {part : String} {above : List String}
    (reaches : tree.reaches ⟨slashes, (part :: above).reverse⟩ = true) :
    tree.reaches ⟨slashes, above.reverse⟩ = true := by
  obtain ⟨location, node, leads⟩ := reaches_iff.mp reaches
  have found := find_of_findNode leads
  rw [List.reverse_cons] at found
  obtain ⟨here, leadsAbove⟩ := findNode_of_find_append (by simp) found
  exact reaches_iff.mpr ⟨here, _, leadsAbove⟩

theorem reaches_start (wellFormed : tree.WellFormed) (slashes : Nat) :
    tree.reachesDirectory ⟨slashes, []⟩ = true := by
  have stands := isDirectoryAt_iff.mp (stands_startOfPath wellFormed ⟨slashes, []⟩)
  refine reachesDirectory_iff.mpr ⟨tree.startOfPath ⟨slashes, []⟩, findNode_of_find ?_⟩
  rw [find_eq_walk rfl, walk_nil, stands]

theorem Makes.above {above : List String} (makes : Makes before slashes above reply made)
    (grows : Grows before after) (wellFormed : after.WellFormed) (clear : after.IsClear made) :
    makeAbove slashes after above = (forgiven reply, after.withDirectories made) := by
  unfold makeAbove
  by_cases needed : above ≠ [] ∧ ¬ after.reaches ⟨slashes, above.reverse⟩ = true
  · rw [if_pos needed, makes.makes after grows wellFormed clear]
    rcases reply with fault | ⟨⟩
    · cases fault <;> rfl
    · rfl
  · have reaches : after.reaches ⟨slashes, above.reverse⟩ = true := by
      by_cases last : above = []
      · rw [last]
        exact reaches_of_directory (reaches_start wellFormed slashes)
      · exact Decidable.not_not.mp fun notReached => needed ⟨last, notReached⟩
    obtain ⟨same, forgives⟩ := makes.reached after grows wellFormed reaches
    rw [if_neg needed, same, forgives]

/-- A directory that is reached is not made again. -/
theorem makeDirectoriesUp_reached {parts : List String}
    (reached : tree.reachesDirectory ⟨slashes, parts.reverse⟩ = true) :
    makeDirectoriesUp slashes tree parts = (.ok (), tree) := by
  cases parts with
  | nil => exact makeOne_reached reached
  | cons part above =>
      have reaches := reaches_above (reaches_of_directory reached)
      have up : makeAbove slashes tree above = (.ok (), tree) := by
        unfold makeAbove
        rw [if_neg (by simp [reaches])]
      rw [makeDirectoriesUp_cons, up]
      exact makeOne_reached reached

theorem makeDirectories_reached (reached : tree.reachesDirectory path = true) :
    tree.makeDirectories path = (.ok (), tree) := by
  apply makeDirectoriesUp_reached
  rw [List.reverse_reverse]
  exact reached

theorem makes_reached {parts : List String}
    (reached : before.reachesDirectory ⟨slashes, parts.reverse⟩ = true) :
    Makes before slashes parts (.ok ()) [] where
  makes := fun _ grows _ _ => makeDirectoriesUp_reached (reachesDirectory_grows grows reached)
  reached := fun _ _ _ _ => ⟨rfl, rfl⟩

/-- Below what is made above it, a path that is stuck adds nothing. -/
theorem Makes.stuck {part : String} {above : List String}
    (makes : Makes before slashes above reply made) (wellFormed : before.WellFormed)
    (stuck : before.IsStuck ⟨slashes, (part :: above).reverse⟩) :
    ∃ outcome, Makes before slashes (part :: above) outcome made := by
  obtain ⟨fault, fails, taken⟩ := makeOne_of_stuck wellFormed stuck
  have step (after : FileTree) (grows : Grows before after) (wellFormedAfter : after.WellFormed)
      (clear : after.IsClear made) : makeDirectoriesUp slashes after (part :: above) =
        ((forgiven reply).bind fun _ => .error fault, after.withDirectories made) := by
    rw [makeDirectoriesUp_cons, makes.above grows wellFormedAfter clear]
    cases forgiven reply with
    | error other => rfl
    | ok _ => exact fails _ (grows.trans (grows_withDirectories after made))
  refine ⟨_, step, fun after grows wellFormedAfter reaches => ?_⟩
  obtain ⟨same, forgives⟩ := makes.reached after grows wellFormedAfter (reaches_above reaches)
  rw [forgives, taken after grows reaches]
  exact ⟨same, rfl⟩

/-! ### Free names below a directory -/

/-- The directories along some names below a directory, the names in reverse. -/
def ladder (base : Location) : List String → List Location
  | [] => []
  | name :: above => ladder base above ++ [base ++ (name :: above).reverse]

theorem mem_ladder {names : List String} : location ∈ ladder base names ↔
    ∃ inner, inner ≠ [] ∧ inner <+: names.reverse ∧ location = base ++ inner := by
  induction names with
  | nil =>
      constructor
      · intro member
        exact absurd member (by simp [ladder])
      · rintro ⟨inner, some, inside, _⟩
        exact absurd (List.prefix_nil.mp inside) some
  | cons name above inductionHypothesis =>
      rw [ladder, List.mem_append, List.mem_singleton, inductionHypothesis, List.reverse_cons]
      constructor
      · rintro (⟨inner, some, inside, rfl⟩ | rfl)
        · exact ⟨inner, some, inside.trans (List.prefix_append _ _), rfl⟩
        · exact ⟨_, by simp, List.prefix_refl _, rfl⟩
      · rintro ⟨inner, some, inside, rfl⟩
        rcases List.prefix_concat_iff.mp inside with whole | before
        · exact .inr (by rw [whole])
        · exact .inl ⟨inner, some, before, rfl⟩

/-- Along free names below a directory no link is added. -/
private theorem not_link_of_ladder {names inner : List String} (grows : Grows before after)
    (absent : ∀ rung ∈ ladder base names, before.node? rung = none)
    (inside : inner <+: names.reverse) (more : inner ≠ []) (target : String) :
    after.node? (base ++ inner) ≠ some (.link target) :=
  fun stands => grows.added _ target stands (absent _ (mem_ladder.mpr ⟨inner, more, inside, rfl⟩))

/-- Where the last of some names is reached, directories stand along all of them. -/
theorem withDirectories_ladder {front names : List String} (grows : Grows before after)
    (wellFormed : after.WellFormed)
    (leads : (before.way ⟨slashes, front⟩).bind Place.node = .ok (base, .directory))
    (isNames : ∀ name ∈ names, IsName name)
    (absent : ∀ rung ∈ ladder base names, before.node? rung = none)
    (reaches : after.reaches ⟨slashes, front ++ names.reverse⟩ = true) :
    after.withDirectories (ladder base names) = after := by
  have stays (locations : List Location)
      (stands : ∀ location ∈ locations, after.node? location ≠ none) :
      after.withDirectories locations = after := by
    induction locations with
    | nil => rfl
    | cons location rest inductionHypothesis =>
        obtain ⟨node, standing⟩ := Option.ne_none_iff_exists'.mp (stands location (by simp))
        change (after.withDirectory location).withDirectories rest = after
        rw [withDirectory_of_stands standing]
        exact inductionHypothesis fun other member =>
          stands other (List.mem_cons_of_mem _ member)
  apply stays
  intro rung member
  obtain ⟨inner, some, inside, rfl⟩ := mem_ladder.mp member
  obtain ⟨left, passes⟩ := passes_of_way leads
  obtain ⟨location, node, leadsTo⟩ := reaches_iff.mp reaches
  have found := find_of_findNode leadsTo
  have more : names.reverse ≠ [] := by
    intro none
    rw [none] at inside
    exact some (List.prefix_nil.mp inside)
  have start : after.startOfPath ⟨slashes, front ++ names.reverse⟩ =
      before.startOfPath ⟨slashes, front⟩ := startOfPath_grows grows _
  rw [find_eq_walk (usable_of_find found), start,
    (passes.grows grows).walk more (by simp)] at found
  have here : location = base ++ names.reverse := location_of_walk_names
    (fun name member => isNames name (List.mem_reverse.mp member))
    (fun part within filled => not_link_of_ladder grows absent within filled) found
  have stands := node_of_findNode leadsTo
  obtain ⟨rest, whole⟩ := inside
  rw [here, ← whole, ← List.append_assoc] at stands
  by_cases last : rest = []
  · rw [last, List.append_nil] at stands
    simp [stands]
  · simp [isDirectoryAt_iff.mp (wellFormed.above stands last)]

/-- A directory is made, or is there, at a name in the directory that a way passes to. -/
theorem makeOne_of_passes {parts : List String} {name : String} {left : Nat}
    (passes : Passes tree linkBudget (tree.startOfPath ⟨slashes, parts⟩) parts left location)
    (directory : tree.isDirectoryAt location = true) (isName : IsName name)
    (usable : (⟨slashes, parts ++ [name]⟩ : Path).isUsable = true)
    (clear : tree.node? (location ++ [name]) = none ∨
      tree.isDirectoryAt (location ++ [name]) = true) :
    tree.makeOne ⟨slashes, parts ++ [name]⟩ =
      (.ok (), tree.withDirectory (location ++ [name])) := by
  have goesOn (arrival : Arrival) : tree.find arrival ⟨slashes, parts ++ [name]⟩ =
      tree.walk arrival left location [name] := by
    rw [find_eq_walk usable]
    refine passes.walk (by simp) ?_
    rintro ⟨_, slash⟩
    exact isName.2.1 (List.cons.inj slash).1
  rcases clear with absent | taken
  · apply makeOne_free
    rw [goesOn, walk_ends (Turning.free directory isName rfl absent).eq]
  · have stands := isDirectoryAt_iff.mp taken
    rw [withDirectory_of_stands stands]
    apply makeOne_reached
    refine reachesDirectory_iff.mpr ⟨location ++ [name], findNode_of_find ?_⟩
    rw [goesOn, walk_name directory isName (by simp) stands (by simp), walk_nil, stands]

/-- The directories along some names are passed once they are there. -/
theorem passes_ladder {front names : List String} (grows : Grows before after)
    (leads : (before.way ⟨slashes, front⟩).bind Place.node = .ok (base, .directory))
    (isNames : ∀ name ∈ names, IsName name) (clear : after.IsClear (ladder base names)) :
    ∃ left, Passes (after.withDirectories (ladder base names)) linkBudget
        (before.startOfPath ⟨slashes, front⟩) (front ++ names.reverse) left
        (base ++ names.reverse) ∧
      (after.withDirectories (ladder base names)).isDirectoryAt (base ++ names.reverse) = true := by
  have grown := grows.trans (grows_withDirectories after (ladder base names))
  have start := grown.isDirectoryAt (directory_of_way leads)
  have directories (inner : List String) (inside : inner <+: names.reverse) :
      (after.withDirectories (ladder base names)).isDirectoryAt (base ++ inner) = true := by
    by_cases none : inner = []
    · rwa [none, List.append_nil]
    · exact clear.isDirectoryAt (mem_ladder.mpr ⟨inner, none, inside, rfl⟩)
  obtain ⟨left, passes⟩ := passes_of_way leads
  have along : Passes (after.withDirectories (ladder base names)) left base names.reverse left
      (base ++ names.reverse) :=
    passes_names (fun name member => isNames name (List.mem_reverse.mp member)) start directories
  exact ⟨left, (passes.grows grown).append along, directories _ (List.prefix_refl _)⟩

/-- Free names below a directory are made into directories one after the other. -/
theorem makes_ladder {front names : List String}
    (leads : (before.way ⟨slashes, front⟩).bind Place.node = .ok (base, .directory))
    (isNames : ∀ name ∈ names, IsName name)
    (absent : ∀ rung ∈ ladder base names, before.node? rung = none)
    (usable : (⟨slashes, front ++ names.reverse⟩ : Path).isUsable = true) :
    Makes before slashes (names ++ front.reverse) (.ok ()) (ladder base names) := by
  induction names with
  | nil =>
      have reached : before.reachesDirectory ⟨slashes, front.reverse.reverse⟩ = true := by
        rw [List.reverse_reverse]
        refine reachesDirectory_iff.mpr ⟨base, ?_⟩
        unfold findNode
        rwa [find_eq_way (by simpa using usable)]
      exact makes_reached reached
  | cons name above inductionHypothesis =>
      have whole : (name :: above ++ front.reverse).reverse =
          front ++ (name :: above).reverse := by simp
      have last : front ++ (name :: above).reverse = (front ++ above.reverse) ++ [name] := by simp
      have isNamesAbove : ∀ other ∈ above, IsName other :=
        fun other member => isNames other (List.mem_cons_of_mem _ member)
      have makesAbove := inductionHypothesis isNamesAbove
        (fun rung member => absent rung (List.mem_append_left _ member))
        (by rw [last] at usable; exact (isUsable_append.mp usable).1)
      refine ⟨fun after grows wellFormed clear => ?_, fun after grows wellFormed reaches => ?_⟩
      · have clearAbove : after.IsClear (ladder base above) :=
          fun rung member => clear rung (List.mem_append_left _ member)
        have lastClear := clear (base ++ (name :: above).reverse)
          (mem_ladder.mpr ⟨_, by simp, List.prefix_refl _, rfl⟩)
        have lastRung : base ++ (name :: above).reverse = base ++ above.reverse ++ [name] := by simp
        -- The last name is looked for in the directories that are there by then.
        obtain ⟨left, passes, directory⟩ := passes_ladder grows leads isNamesAbove clearAbove
        rw [← startOfPath_grows (grows.trans (grows_withDirectories after (ladder base above)))
          ⟨slashes, front⟩] at passes
        rw [lastRung] at lastClear
        rw [last] at usable
        have made := makeOne_of_passes passes directory (isNames name (by simp)) usable
          (clear_withDirectories lastClear)
        rw [List.cons_append, makeDirectoriesUp_cons,
          makesAbove.above grows wellFormed clearAbove]
        change FileTree.makeOne _ ⟨slashes, (name :: above ++ front.reverse).reverse⟩ = _
        rw [whole, last, made, ladder, lastRung, withDirectories_concat]
      · rw [whole] at reaches
        exact ⟨withDirectories_ladder grows wellFormed leads isNames absent reaches, rfl⟩

/-! ### The directories above a destination -/

/-- All that a path above another one can lead to, if the destination of the other is known: a
directory, what no directory is made at, or free names on the way to the destination. -/
inductive Upper (tree : FileTree) (slashes : Nat) (target : Option Location) :
    List String → Prop
  | reached {parts : List String} : tree.reachesDirectory ⟨slashes, parts⟩ = true →
      Upper tree slashes target parts
  | stuck {parts : List String} : tree.IsStuck ⟨slashes, parts⟩ → Upper tree slashes target parts
  | free {front names others : List String} {first : String} {base : Location} :
      (tree.way ⟨slashes, front⟩).bind Place.node = .ok (base, .directory) →
      (∀ name ∈ first :: names, IsName name) → tree.node? (base ++ [first]) = none →
      (⟨slashes, front ++ first :: names⟩ : Path).isUsable = true →
      others ≠ [] → target = some (base ++ first :: names ++ others) →
      Upper tree slashes target (front ++ first :: names)

/-- A path whose way leads to a node or is broken off for good leads to a directory, or none is
made there. -/
theorem upper_of_way {target : Option Location} {parts : List String}
    (settled : (tree.way ⟨slashes, parts⟩).bind Place.node ≠ .error .missing) :
    Upper tree slashes target parts := by
  cases usable : (⟨slashes, parts⟩ : Path).isUsable with
  | false => exact .stuck (.inl ⟨.unusablePath, by simp, find_unusable usable⟩)
  | true =>
      cases leads : tree.way ⟨slashes, parts⟩ with
      | error fault =>
          refine .stuck (.inl ⟨fault, ?_, ?_⟩)
          · rintro rfl
            exact settled (by rw [leads]; rfl)
          · rw [find_eq_way usable, leads]
      | ok place =>
          cases place with
          | vacant free => exact absurd (by rw [leads]; rfl) settled
          | occupied location node =>
              have found : tree.find .behindLink ⟨slashes, parts⟩ =
                  .ok (.occupied location node) := by rw [find_eq_way usable, leads]
              by_cases isDirectory : node = .directory
              · subst isDirectory
                exact .reached (reachesDirectory_iff.mpr ⟨location, findNode_of_find found⟩)
              · exact .stuck (.inr ⟨location, node, isDirectory, found⟩)

theorem upper_of_destination (wellFormed : tree.WellFormed) {target : Option Location}
    (destination : tree.Destination path target) {parts others : List String}
    (more : others ≠ []) (whole : path.parts = parts ++ others) :
    Upper tree path.slashes target parts := by
  have starts : tree.node? (tree.startOfPath path) ≠ none := by
    simp [isDirectoryAt_iff.mp (stands_startOfPath wellFormed path)]
  have onward (missing : (tree.way ⟨path.slashes, parts⟩).bind Place.node = .error .missing) :
      tree.way path = .error .missing := by
    unfold way
    rw [whole]
    exact walk_append_missing wellFormed more starts missing
  cases destination with
  | there leads =>
      apply upper_of_way
      intro missing
      rw [leads] at onward
      simpa using onward missing
  | blocked broken lasting =>
      apply upper_of_way
      intro missing
      rw [broken] at onward
      exact lasting (Except.error.inj (onward missing))
  | @beyond front rest first base split leads isNames absent =>
      have within (inner : List String) (inside : parts ++ inner = front) :
          Upper tree path.slashes (some (base ++ first :: rest)) parts := by
        apply upper_of_way
        intro missing
        by_cases none : inner = []
        · rw [none, List.append_nil] at inside
          rw [inside, leads] at missing
          simp at missing
        · have broken : tree.way ⟨path.slashes, front⟩ = .error .missing := by
            rw [← inside]
            exact walk_append_missing wellFormed none starts missing
          rw [broken] at leads
          simp [Except.bind] at leads
      rw [whole] at split
      rcases List.append_eq_append_iff.mp split with ⟨inner, inside, _⟩ | ⟨names, rfl, tail⟩
      · exact within inner inside.symm
      · cases names with
        | nil => exact within [] (by simp)
        | cons name names =>
            rw [List.cons_append] at tail
            obtain ⟨rfl, rfl⟩ := List.cons.inj tail
            cases usable : (⟨path.slashes, front ++ first :: names⟩ : Path).isUsable with
            | false => exact .stuck (.inl ⟨.unusablePath, by simp, find_unusable usable⟩)
            | true =>
                have isNamesHere : ∀ name ∈ first :: names, IsName name :=
                  fun name member => isNames name (List.mem_append_left others member)
                exact .free leads isNamesHere absent usable more (by simp)

/-- Making a directory above a destination gives one reply in all trees that have grown, and adds
directories on the way to the destination. -/
theorem makes_of_destination (wellFormed : before.WellFormed) {target : Option Location}
    (destination : before.Destination path target) {parts others : List String}
    (more : others ≠ []) (whole : path.parts = parts.reverse ++ others) :
    ∃ reply made, Makes before path.slashes parts reply made ∧
      ∀ rung ∈ made, before.node? rung = none ∧
        ∃ location, target = some location ∧ rung <+: location ∧ rung ≠ location := by
  induction parts generalizing others with
  | nil => exact ⟨_, _, makes_reached (reaches_start wellFormed path.slashes), by simp⟩
  | cons part above inductionHypothesis =>
      have upper := upper_of_destination wellFormed destination more whole
      generalize isParts : (part :: above).reverse = parts at upper
      cases upper with
      | reached reached =>
          rw [← isParts] at reached
          exact ⟨_, _, makes_reached reached, by simp⟩
      | stuck stuck =>
          rw [← isParts] at stuck
          obtain ⟨reply, made, makes, toward⟩ :=
            inductionHypothesis (List.cons_ne_nil part others) (by simp [whole])
          obtain ⟨outcome, makesHere⟩ := makes.stuck wellFormed stuck
          exact ⟨outcome, made, makesHere, toward⟩
      | @free front names last first base leads isNames absent usable notLast isTarget =>
          have rungs : ∀ rung ∈ ladder base (first :: names).reverse,
              before.node? rung = none ∧ ∃ location, target = some location ∧
                rung <+: location ∧ rung ≠ location := by
            intro rung member
            obtain ⟨inner, some, inside, rfl⟩ := mem_ladder.mp member
            rw [List.reverse_reverse] at inside
            obtain ⟨tail, joined⟩ := inside
            obtain ⟨name, rest, rfl⟩ := List.exists_cons_of_ne_nil some
            obtain ⟨rfl, _⟩ := List.cons.inj joined
            refine ⟨wellFormed.absent_below (prefix_of_cons _ _ rest) absent, _, isTarget,
              ⟨tail ++ last, ?_⟩, ?_⟩
            · rw [← joined]
              simp
            · rw [← joined]
              simp [notLast]
          have makes : Makes before path.slashes ((first :: names).reverse ++ front.reverse)
              (.ok ()) (ladder base (first :: names).reverse) :=
            makes_ladder leads (fun name member => isNames name (List.mem_reverse.mp member))
              (fun rung member => (rungs rung member).1) (by rwa [List.reverse_reverse])
          rw [← List.reverse_append, ← isParts, List.reverse_reverse] at makes
          exact ⟨_, _, makes, rungs⟩

/-- Making the directory that an output file goes into gives one reply in all trees that have
grown, and adds directories on the way to the file. -/
theorem makeDirectories_of_destination (wellFormed : before.WellFormed)
    {target : Option Location} (destination : before.Destination path target) :
    ∃ reply made,
      (∀ after, Grows before after → after.WellFormed → after.IsClear made →
        after.makeDirectories path.parent = (reply, after.withDirectories made)) ∧
      ∀ rung ∈ made, before.node? rung = none ∧
        ∃ location, target = some location ∧ rung <+: location ∧ rung ≠ location := by
  by_cases none : path.parts = []
  · have reached : before.reachesDirectory ⟨path.slashes, path.parent.parts.reverse.reverse⟩ =
        true := by
      change before.reachesDirectory ⟨path.slashes, path.parts.dropLast.reverse.reverse⟩ = true
      rw [none]
      exact reaches_start wellFormed path.slashes
    exact ⟨_, _, (makes_reached reached).makes, by simp⟩
  · have whole : path.parts = path.parent.parts.reverse.reverse ++ [path.parts.getLast none] := by
      rw [List.reverse_reverse]
      exact (List.dropLast_concat_getLast none).symm
    obtain ⟨reply, made, makes, rungs⟩ :=
      makes_of_destination wellFormed destination (by simp) whole
    exact ⟨reply, made, makes.makes, rungs⟩

end TemplateBundle.FileTree
