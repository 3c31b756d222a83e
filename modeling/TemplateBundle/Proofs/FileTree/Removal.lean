import TemplateBundle.Proofs.FileTree.Directories

/-!
Contract: a tree from which some files are removed.

Owns: the nodes of such a tree, where its ways lead, and that making directories and setting
nodes elsewhere come to the same before and after the removal.
-/

namespace TemplateBundle.FileTree

variable {tree changed : FileTree} {arrival : Arrival} {removed : List Location}
  {location : Location} {node : Node} {path : Path} {slashes : Nat}

/-- The tree without the nodes at some locations. -/
def without (tree : FileTree) (removed : List Location) : FileTree :=
  { tree with entries := tree.entries.filter fun entry => entry.1 ∉ removed }

/-- Files stand at all of some locations. -/
def AreFiles (tree : FileTree) (locations : List Location) : Prop :=
  ∀ location ∈ locations, ∃ content executable,
    tree.node? location = some (.file content executable)

theorem AreFiles.notRoot (files : tree.AreFiles removed) (member : location ∈ removed) :
    location ≠ [] := by
  obtain ⟨content, executable, stands⟩ := files location member
  rintro rfl
  simp [node?_root] at stands

theorem AreFiles.outside (files : tree.AreFiles removed)
    (stands : tree.node? location = some node)
    (notFile : ∀ content executable, node ≠ .file content executable) : location ∉ removed := by
  intro member
  obtain ⟨content, executable, isFile⟩ := files location member
  exact notFile content executable (Option.some.inj (stands.symm.trans isFile))

/-- A path to a directory does not lead to one of the files. -/
theorem AreFiles.outside_of_directory (files : tree.AreFiles removed)
    (leads : tree.findNode path = .ok (location, .directory)) : location ∉ removed :=
  files.outside (node_of_findNode leads) (by simp)

theorem AreFiles.outside_of_vacant (files : tree.AreFiles removed)
    (absent : tree.node? location = none) : location ∉ removed := by
  intro member
  obtain ⟨content, executable, isFile⟩ := files location member
  rw [absent] at isFile
  simp at isFile

theorem AreFiles.grows {after : FileTree} (files : tree.AreFiles removed)
    (grows : Grows tree after) : after.AreFiles removed := by
  intro location member
  obtain ⟨content, executable, stands⟩ := files location member
  exact grows.file stands

/-! ### Nodes -/

theorem node?_without (kept : location ∉ removed) :
    (tree.without removed).node? location = tree.node? location := by
  unfold node? without
  by_cases isRoot : location = []
  · rw [if_pos isRoot, if_pos isRoot]
  · rw [if_neg isRoot, if_neg isRoot, List.find?_filter]
    congr 2
    funext entry
    by_cases same : entry.1 = location
    · simp [same, kept]
    · simp [same]

theorem node?_without_removed (member : location ∈ removed) (notRoot : location ≠ []) :
    (tree.without removed).node? location = none := by
  unfold node? without
  rw [if_neg notRoot, Option.map_eq_none_iff, List.find?_eq_none]
  intro entry inKept
  have outside := (List.mem_filter.mp inKept).2
  simp only [beq_iff_eq]
  rintro rfl
  simp [member] at outside

theorem isDirectoryAt_without (files : tree.AreFiles removed)
    (directory : tree.isDirectoryAt location = true) :
    (tree.without removed).isDirectoryAt location = true := by
  have stands := isDirectoryAt_iff.mp directory
  rw [isDirectoryAt_iff, node?_without (files.outside stands (by simp))]
  exact stands

/-- What is left of a tree grows to the tree. -/
theorem grows_without (files : tree.AreFiles removed) : Grows (tree.without removed) tree where
  home := rfl
  kept := by
    intro location node stands
    by_cases member : location ∈ removed
    · rw [node?_without_removed member (files.notRoot member)] at stands
      simp at stands
    · rw [node?_without member] at stands
      exact ⟨node, stands, rfl⟩
  added := by
    intro location target stands
    rw [node?_without (files.outside stands (by simp)), stands]
    simp

private theorem setEntries_filter {stays : Location × Node → Bool}
    (entries : List (Location × Node)) (kept : ∀ old, stays (location, old) = true) :
    (setEntries entries location node).filter stays =
      setEntries (entries.filter stays) location node := by
  induction entries with
  | nil => simp [setEntries, kept]
  | cons entry rest inductionHypothesis =>
      obtain ⟨present, old⟩ := entry
      by_cases here : present = location
      · subst here
        simp [setEntries, kept]
      · by_cases stay : stays (present, old) = true
        · simp [setEntries, here, stay, inductionHypothesis]
        · simp [setEntries, here, stay, inductionHypothesis]

theorem set_without (kept : location ∉ removed) :
    (tree.set location node).without removed = (tree.without removed).set location node := by
  unfold FileTree.set without
  rw [setEntries_filter tree.entries fun old => by simpa using kept]

/-! ### Ways -/

/-- A way that comes to a file ends there. -/
private theorem ends_at_file {budget : Nat} {parts : List String} {place : Place}
    {content : ByteArray} {executable : Bool}
    (leads : Leads tree arrival budget location parts place)
    (isFile : tree.node? location = some (.file content executable)) :
    parts = [] ∧ place = .occupied location (.file content executable) := by
  have outside {part : String} {rest : List String} {result : Turn}
      (turning : Turning tree arrival location part rest result) :
      result = .breaks .notDirectory := by
    cases turning with
    | outside _ => rfl
    | _ => simp_all [isDirectoryAt_iff]
  cases leads with
  | atEnd stands => exact ⟨rfl, by rw [Option.some.inj (isFile.symm.trans stands)]⟩
  | onward turning _ | aside turning _ | ends turning => exact absurd (outside turning) (by simp)

/-- A way that leads to a place leads there still, or, if the file there is removed, to a free
name. -/
theorem walk_without (wellFormed : tree.WellFormed) (files : tree.AreFiles removed)
    {budget : Nat} {parts : List String} {place : Place}
    (leads : tree.walk arrival budget location parts = .ok place) (starts : location ∉ removed) :
    (tree.without removed).walk arrival budget location parts =
      .ok (if place.location ∈ removed then .vacant place.location else place) := by
  have notGone {other : Location} (directory : tree.isDirectoryAt other = true) :
      other ∉ removed := files.outside (isDirectoryAt_iff.mp directory) (by simp)
  replace leads := leads_of_walk leads
  induction leads with
  | atEnd stands =>
      rw [walk_nil, node?_without starts, stands]
      simp [Place.location, starts]
  | @onward budget location next part rest place turning later inductionHypothesis =>
      cases turning with
      | here directory isHere =>
          rw [walk_onward (Turning.here (isDirectoryAt_without files directory) isHere).eq]
          exact inductionHypothesis starts
      | up directory isUp =>
          rw [walk_onward (Turning.up (isDirectoryAt_without files directory) isUp).eq]
          exact inductionHypothesis (notGone (wellFormed.parent (isDirectoryAt_iff.mp directory)))
      | through node directory isName notSlash stands notLink =>
          have directoryKept := isDirectoryAt_without files directory
          by_cases gone : location ++ [part] ∈ removed
          · -- The file is where the way ends, since no way leads through it.
            obtain ⟨content, executable, isFile⟩ := files _ gone
            obtain ⟨rfl, rfl⟩ := ends_at_file later isFile
            rw [walk_ends (Turning.free directoryKept isName rfl
              (node?_without_removed gone (by simp))).eq]
            simp [Place.location, gone]
          · rw [walk_onward (Turning.through node directoryKept isName notSlash
              (by rw [node?_without gone, stands]) notLink).eq]
            exact inductionHypothesis gone
  | aside turning _ inductionHypothesis =>
      cases turning with
      | aside target directory isName notSlash notEnd stands =>
          rw [walk_aside (Turning.aside target (isDirectoryAt_without files directory) isName
            notSlash notEnd (by rw [node?_without (files.outside stands (by simp)), stands])).eq]
          refine inductionHypothesis ?_
          unfold startOf
          split
          · exact notGone (isDirectoryAt_root tree)
          · exact starts
  | ends turning =>
      cases turning with
      | free directory isName last absent =>
          have kept := files.outside_of_vacant absent
          rw [walk_ends (Turning.free (isDirectoryAt_without files directory) isName last
            (by rw [node?_without kept, absent])).eq]
          simp [Place.location, kept]
      | atLink target directory isName last atEnd stands =>
          have kept := files.outside stands (by simp)
          rw [walk_ends (Turning.atLink target (isDirectoryAt_without files directory) isName last
            atEnd (by rw [node?_without kept, stands])).eq]
          simp [Place.location, kept]

theorem find_without (wellFormed : tree.WellFormed) (files : tree.AreFiles removed)
    {place : Place} (leads : tree.find arrival path = .ok place) :
    (tree.without removed).find arrival path =
      .ok (if place.location ∈ removed then .vacant place.location else place) := by
  have usable := usable_of_find leads
  rw [find_eq_walk usable] at leads ⊢
  refine walk_without wellFormed files leads ?_
  unfold startOfPath
  split
  · exact files.outside (isDirectoryAt_iff.mp wellFormed.home) (by simp)
  · exact files.outside (node?_root tree) (by simp)

/-- A way to what is not removed leads there still. -/
theorem find_without_kept (wellFormed : tree.WellFormed) (files : tree.AreFiles removed)
    {place : Place} (leads : tree.find arrival path = .ok place)
    (kept : place.location ∉ removed) :
    (tree.without removed).find arrival path = .ok place := by
  rw [find_without wellFormed files leads, if_neg kept]

theorem findNode_without (wellFormed : tree.WellFormed) (files : tree.AreFiles removed)
    (leads : tree.findNode path = .ok (location, node)) (kept : location ∉ removed) :
    (tree.without removed).findNode path = .ok (location, node) := by
  exact findNode_of_find (find_without_kept wellFormed files (find_of_findNode leads) kept)

/-! ### Making directories -/

theorem makeOne_without (wellFormed : tree.WellFormed) (files : tree.AreFiles removed)
    (done : tree.makeOne path = (.ok (), changed)) :
    (tree.without removed).makeOne path = (.ok (), changed.without removed) := by
  rcases makeOne_ok done with ⟨location, leads, rfl⟩ | ⟨_, reaches, rfl⟩
  · have kept := files.outside_of_vacant (vacant_of_find leads)
    unfold makeOne makeDirectory
    rw [find_without_kept wellFormed files leads kept, set_without kept]
  · obtain ⟨location, leads⟩ := reachesDirectory_iff.mp reaches
    have leftLeads := findNode_without wellFormed files leads (files.outside_of_directory leads)
    have leftReaches := reachesDirectory_iff.mpr ⟨location, leftLeads⟩
    unfold makeOne
    cases made : (changed.without removed).makeDirectory path with
    | error fault =>
        dsimp only
        rw [if_pos leftReaches]
    | ok result =>
        -- The directory is there, so that its name is not free.
        obtain ⟨free, vacant, _⟩ := makeDirectory_ok made
        have behind := find_behindLink_of_atLink vacant (by simp)
        unfold findNode at leftLeads
        rw [behind] at leftLeads
        simp [Except.bind, Place.node] at leftLeads

/-- Making directories that are made in the whole tree comes to the same without the files. -/
theorem makeDirectoriesUp_without (wellFormed : tree.WellFormed) (files : tree.AreFiles removed)
    {parts : List String} (normal : ∀ part ∈ parts, Path.IsPart part)
    (done : makeDirectoriesUp slashes tree parts = (.ok (), changed)) :
    makeDirectoriesUp slashes (tree.without removed) parts = (.ok (), changed.without removed) := by
  induction parts generalizing changed with
  | nil => exact makeOne_without wellFormed files done
  | cons part above inductionHypothesis =>
      have normalAbove : ∀ other ∈ above, Path.IsPart other :=
        fun other member => normal other (List.mem_cons_of_mem part member)
      rcases up : makeAbove slashes tree above with ⟨fault | _, middle⟩
      · rw [makeDirectoriesUp_cons, up] at done
        simp at done
      · have made : middle.makeOne ⟨slashes, (part :: above).reverse⟩ = (.ok (), changed) := by
          rw [makeDirectoriesUp_cons, up] at done
          exact done
        obtain ⟨location, leads⟩ := above_of_makeOne (List.reverse_cons ▸ made)
        have leftUp : middle.WellFormed ∧ middle.AreFiles removed ∧
            makeAbove slashes (tree.without removed) above = (.ok (), middle.without removed) := by
          rcases makeAbove_ok up (reachesDirectory_iff.mpr ⟨location, leads⟩) with
            ⟨_, rfl⟩ | ⟨⟨more, away⟩, upper⟩
          · have leftLeads := findNode_without wellFormed files leads
              (files.outside_of_directory leads)
            refine ⟨wellFormed, files, ?_⟩
            rw [makeAbove, if_neg]
            rintro ⟨_, leftAway⟩
            exact leftAway (reaches_iff.mpr ⟨_, _, leftLeads⟩)
          · have leftAway : ¬ (tree.without removed).reaches ⟨slashes, above.reverse⟩ = true :=
              fun leftReaches => away (reaches_grows (grows_without files) leftReaches)
            have grown := makeDirectoriesUp_wellFormed slashes wellFormed normalAbove
            rw [upper] at grown
            refine ⟨grown.1, files.grows grown.2, ?_⟩
            rw [makeAbove, if_pos ⟨more, leftAway⟩, inductionHypothesis normalAbove upper]
        obtain ⟨middleWellFormed, middleFiles, leftAbove⟩ := leftUp
        rw [makeDirectoriesUp_cons, leftAbove]
        exact makeOne_without middleWellFormed middleFiles made

/-! ### Files that are written -/

theorem holding_without (kept : location ∉ removed) (executable : Bool) (text : String) :
    (tree.holding location executable text).without removed =
      (tree.without removed).holding location executable text :=
  set_without kept

/-- Writing to a file that is not removed comes to the same without the removed ones. -/
theorem change_without {content : ByteArray → ByteArray} (wellFormed : tree.WellFormed)
    (files : tree.AreFiles removed) (succeeds : tree.change path content = .ok changed)
    (kept : ∀ place, tree.find .making path = .ok place → place.location ∉ removed) :
    (tree.without removed).change path content = .ok (changed.without removed) := by
  obtain ⟨place, old, executable, leads, held, rfl⟩ := change_ok succeeds
  have left := find_without_kept wellFormed files leads (kept place leads)
  rw [change_of_find left held, set_without (kept place leads)]

/-- What is written to a path goes to the same file without the removed ones. -/
theorem WritesTo.without {executable : Bool} (writes : tree.WritesTo path location executable)
    (wellFormed : ∀ text, (tree.holding location executable text).WellFormed)
    (files : ∀ text, (tree.holding location executable text).AreFiles removed)
    (kept : location ∉ removed) :
    (tree.without removed).WritesTo path location executable where
  notRoot := writes.notRoot
  fileOrFree := by
    rw [node?_without kept]
    exact writes.fileOrFree
  leads := by
    intro text
    rw [← holding_without kept]
    exact find_without_kept (wellFormed text) (files text) (writes.leads text) kept

end TemplateBundle.FileTree
