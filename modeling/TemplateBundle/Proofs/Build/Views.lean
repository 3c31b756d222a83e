import TemplateBundle.Proofs.FileTree.Writing
import TemplateBundle.Proofs.Task.Steps

/-!
Contract: what a task sees of a tree that others change too.

Owns: tasks that are apart, the view that each has of the shared tree beside the one it would
have alone, and that a step of a task gets the same answer in both and is not seen by the others.

Does not own: whole runs and their interleavings (`Proofs.Build.Isolation`).
-/

namespace TemplateBundle.Build

variable {κ : Type} {start shared own changed : FileTree} {task : κ → Options}
  {inputs outputs : κ → Option Location} {key : κ} {path : Path} {location : Location}

/-- The paths of some tasks have destinations, no output is at or above another one, no output is
inside an input directory, and none is at or above one that is not there. -/
structure Layout (start : FileTree) (task : κ → Options)
    (inputs outputs : κ → Option Location) : Prop where
  wellFormed : start.WellFormed
  normal : ∀ key, (task key).outputPath.IsNormal
  input : ∀ key, start.Destination (task key).inputDir (inputs key)
  output : ∀ key, start.Destination (task key).outputPath (outputs key)
  apart : ∀ first second, first ≠ second → ∀ here there, outputs first = some here →
    outputs second = some there → ¬ here <+: there
  outside : ∀ reader writer input output, inputs reader = some input →
    outputs writer = some output →
      (input <+: output → input = output) ∧ (start.node? input = none → ¬ output <+: input)

/-- The places that outputs go to. -/
def Places (outputs : κ → Option Location) (location : Location) : Prop :=
  ∃ key, outputs key = some location

/-- A task sees the tree that would be its own: all tasks have written in the shared one and only
this task in its own, its output is the same in both, and the directories of its own are there. -/
structure View (start : FileTree) (outputs : κ → Option Location) (key : κ)
    (shared own : FileTree) : Prop where
  sharedBuilt : FileTree.Built start shared (Places outputs)
  ownBuilt : FileTree.Built start own fun location => outputs key = some location
  sameOutput : ∀ location, outputs key = some location →
    shared.node? location = own.node? location
  sameDirectories : ∀ location, own.node? location = some .directory →
    shared.node? location = some .directory

namespace View

theorem refl (wellFormed : start.WellFormed) (outputs : κ → Option Location) (key : κ) :
    View start outputs key start start where
  sharedBuilt := .refl wellFormed _
  ownBuilt := .refl wellFormed _
  sameOutput := fun _ _ => rfl
  sameDirectories := fun _ stands => stands

/-- The shared tree has grown from each that is seen. -/
theorem grows (view : View start outputs key shared own) : FileTree.Grows own shared where
  home := view.sharedBuilt.grows.home.trans view.ownBuilt.grows.home.symm
  kept := by
    intro location node stands
    cases before : start.node? location with
    | some old =>
        by_cases isOutput : outputs key = some location
        · exact ⟨node, by rw [view.sameOutput location isOutput, stands], rfl⟩
        · have same := view.ownBuilt.kept location old before isOutput
          rw [stands, Option.some.injEq] at same
          rw [same]
          exact view.sharedBuilt.grows.kept location old before
    | none =>
        rcases view.ownBuilt.added location node before stands with ⟨isOutput, _⟩ | ⟨rfl, _⟩
        · exact ⟨node, by rw [view.sameOutput location isOutput, stands], rfl⟩
        · exact ⟨_, view.sameDirectories location stands, rfl⟩
  added := by
    intro location target stands absent
    cases before : start.node? location with
    | none => exact view.sharedBuilt.grows.added location target stands before
    | some old =>
        obtain ⟨later, standsLater, _⟩ := view.ownBuilt.grows.kept location old before
        rw [absent] at standsLater
        exact absurd standsLater (by simp)

/-- What another task does leaves the view as it is, if the output stays. -/
theorem of_shared (view : View start outputs key shared own)
    (built : FileTree.Built start changed (Places outputs)) (grows : FileTree.Grows shared changed)
    (stays : ∀ location, outputs key = some location →
      changed.node? location = shared.node? location) :
    View start outputs key changed own where
  sharedBuilt := built
  ownBuilt := view.ownBuilt
  sameOutput := fun location isOutput =>
    (stays location isOutput).trans (view.sameOutput location isOutput)
  sameDirectories := fun location stands =>
    grows.directory (view.sameDirectories location stands)

end View

/-! ### The input directory -/

section Input

variable {tree : FileTree} {written : Location → Prop} {input : Location}

/-- What is in the input directory of a task is as it was. -/
theorem Layout.node?_input (layout : Layout start task inputs outputs)
    (built : FileTree.Built start tree written)
    (within : ∀ location, written location → Places outputs location)
    (isInput : inputs key = some input) {names : List String} (some : names ≠ []) :
    tree.node? (input ++ names) = start.node? (input ++ names) := by
  apply built.node?_eq
  intro place isWritten below
  obtain ⟨writer, isOutput⟩ := within place isWritten
  have inside := (List.prefix_append input names).trans below
  have same := (layout.outside key writer input place isInput isOutput).1 inside
  rw [← same] at below
  exact some (List.append_right_eq_self.mp
    (below.eq_of_length_le (List.prefix_append input names).length_le))

/-- Where an input directory is not there, it is not there later. -/
theorem Layout.absent_input (layout : Layout start task inputs outputs)
    (built : FileTree.Built start tree written)
    (within : ∀ location, written location → Places outputs location)
    (isInput : inputs key = some input) (absent : start.node? input = none) :
    tree.node? input = none := by
  rw [built.node?_eq, absent]
  intro place isWritten inside
  obtain ⟨writer, isOutput⟩ := within place isWritten
  obtain ⟨notInside, notAbove⟩ := layout.outside key writer input place isInput isOutput
  obtain rfl := notInside inside
  exact notAbove absent inside

/-- The path of an input directory fails for the same reason or leads to a node of the same
shape. -/
theorem Layout.findNode_input (layout : Layout start task inputs outputs)
    (built : FileTree.Built start tree written)
    (within : ∀ location, written location → Places outputs location) (key : κ) :
    (∃ fault, start.findNode (task key).inputDir = .error fault ∧
        tree.findNode (task key).inputDir = .error fault) ∨
      ∃ input node later, inputs key = some input ∧
        start.findNode (task key).inputDir = .ok (input, node) ∧
        tree.findNode (task key).inputDir = .ok (input, later) ∧ later.shape = node.shape := by
  have destination := layout.input key
  rcases leads : start.findNode (task key).inputDir with fault | ⟨input, node⟩
  · left
    cases isInput : inputs key with
    | none =>
        rw [isInput] at destination
        obtain ⟨fault, lasting, broken⟩ := FileTree.find_of_blocked destination
        rw [FileTree.findNode_of_find_error broken] at leads
        exact ⟨fault, leads.symm, FileTree.findNode_of_find_error
          (FileTree.find_error_grows layout.wellFormed built.grows lasting broken)⟩
    | some input =>
        rw [isInput] at destination
        cases usable : (task key).inputDir.isUsable with
        | false =>
            rw [FileTree.findNode_of_find_error (FileTree.find_unusable usable)] at leads
            exact ⟨_, leads.symm, FileTree.findNode_of_find_error (FileTree.find_unusable usable)⟩
        | true =>
            have toward : FileTree.GrowsToward start tree input := by
              apply built.growsToward
              intro place isWritten absent inside
              obtain ⟨writer, isOutput⟩ := within place isWritten
              have missing := layout.wellFormed.absent_below inside absent
              exact absurd inside
                ((layout.outside key writer input place isInput isOutput).2 missing)
            have before := FileTree.GrowsToward.refl layout.wellFormed input
            rw [FileTree.findNode_of_destination layout.wellFormed destination before usable]
              at leads
            rw [FileTree.findNode_of_destination layout.wellFormed destination toward usable]
            cases stands : start.node? input with
            | some node => simp [FileTree.placeAt_of_node stands, Place.node] at leads
            | none =>
                rw [FileTree.placeAt_of_vacant stands] at leads
                rw [FileTree.placeAt_of_vacant (layout.absent_input built within isInput stands)]
                exact ⟨fault, rfl, leads⟩
  · obtain ⟨later, leadsLater, same⟩ := FileTree.findNode_grows built.grows leads
    have isInput : inputs key = some input := FileTree.location_of_destination
      layout.wellFormed destination (.refl start) (FileTree.find_of_findNode leads)
    exact .inr ⟨input, node, later, isInput, rfl, leadsLater, same⟩

theorem Layout.list_input (layout : Layout start task inputs outputs)
    (built : FileTree.Built start tree written)
    (within : ∀ location, written location → Places outputs location) (key : κ)
    (recursive : Bool) :
    tree.list (task key).inputDir recursive = start.list (task key).inputDir recursive := by
  rcases layout.findNode_input built within key with
    ⟨fault, fails, failsLater⟩ | ⟨input, node, later, isInput, leads, leadsLater, same⟩
  · rw [FileTree.list_of_findNode_error fails, FileTree.list_of_findNode_error failsLater]
  · by_cases isDirectory : node = .directory
    · subst isDirectory
      rw [FileTree.shape_eq_directory same] at leadsLater
      rw [FileTree.list_of_findNode leads, FileTree.list_of_findNode leadsLater,
        built.listing_eq _ recursive]
      intro place isWritten inside
      obtain ⟨writer, isOutput⟩ := within place isWritten
      exact (layout.outside key writer input place isInput isOutput).1 inside
    · have notDirectory : later ≠ .directory := by
        rintro rfl
        exact isDirectory (FileTree.shape_eq_directory same.symm)
      rw [FileTree.list_of_notDirectory leads isDirectory,
        FileTree.list_of_notDirectory leadsLater notDirectory]

/-- What is named in the input directory of one tree is named in that of another. -/
theorem Layout.names_input (layout : Layout start task inputs outputs)
    (view : View start outputs key shared own) {base : Location} {relative : String}
    {names : List String} {node : Node}
    (leads : own.findNode (task key).inputDir = .ok (base, .directory))
    (named : own.Names base relative names node) :
    shared.findNode (task key).inputDir = .ok (base, .directory) ∧
      shared.Names base relative names node := by
  have isInput : inputs key = some base := FileTree.location_of_destination
    layout.wellFormed (layout.input key) view.ownBuilt.grows (FileTree.find_of_findNode leads)
  have stands := named.stands view.ownBuilt.wellFormed
  rw [layout.node?_input view.ownBuilt (fun _ isOutput => ⟨key, isOutput⟩) isInput named.some,
    ← layout.node?_input view.sharedBuilt (fun _ isPlace => isPlace) isInput named.some] at stands
  obtain ⟨later, leadsShared, same⟩ := FileTree.findNode_grows view.grows leads
  rw [FileTree.shape_eq_directory same] at leadsShared
  exact ⟨leadsShared, named.some, named.text,
    FileTree.mem_entries_of_node? stands (by simp [named.some])⟩

end Input

/-! ### The directory of the output -/

section Directories

variable {tree : FileTree} {written : Location → Prop} {made : List Location}

/-- Nothing but directories comes to stand on the way to an output. -/
theorem Layout.clear (layout : Layout start task inputs outputs)
    (built : FileTree.Built start tree written)
    (within : ∀ location, written location → Places outputs location)
    (above : ∀ rung ∈ made, start.node? rung = none ∧
      ∃ location, outputs key = some location ∧ rung <+: location ∧ rung ≠ location) :
    tree.IsClear made := by
  intro rung member
  obtain ⟨absent, location, isOutput, inside, different⟩ := above rung member
  cases stands : tree.node? rung with
  | none => exact .inl rfl
  | some node =>
      rcases built.added rung node absent stands with ⟨isWritten, _⟩ | ⟨rfl, _⟩
      · obtain ⟨writer, isPlace⟩ := within rung isWritten
        by_cases same : writer = key
        · rw [same, isOutput, Option.some.injEq] at isPlace
          exact absurd isPlace.symm different
        · exact absurd inside (layout.apart writer key same rung location isPlace isOutput)
      · exact .inr (FileTree.isDirectoryAt_iff.mpr stands)

theorem View.directories (view : View start outputs key shared own)
    (above : ∀ rung ∈ made, start.node? rung = none ∧
      ∃ location, outputs key = some location ∧ rung <+: location ∧ rung ≠ location)
    (clear : shared.IsClear made)
    (sharedWellFormed : (shared.withDirectories made).WellFormed)
    (ownWellFormed : (own.withDirectories made).WellFormed) :
    View start outputs key (shared.withDirectories made) (own.withDirectories made) where
  sharedBuilt := view.sharedBuilt.directories sharedWellFormed fun rung member => by
    obtain ⟨_, location, isOutput, inside⟩ := above rung member
    exact ⟨location, ⟨key, isOutput⟩, inside⟩
  ownBuilt := view.ownBuilt.directories ownWellFormed fun rung member => (above rung member).2
  sameOutput := by
    intro location isOutput
    rw [FileTree.node?_withDirectories, FileTree.node?_withDirectories,
      view.sameOutput location isOutput]
  sameDirectories := by
    intro location stands
    rw [FileTree.node?_withDirectories] at stands
    by_cases new : location ∈ made ∧ own.node? location = none
    · exact FileTree.isDirectoryAt_iff.mp (clear.isDirectoryAt new.1)
    · rw [if_neg new] at stands
      exact (FileTree.grows_withDirectories shared made).directory
        (view.sameDirectories location stands)

end Directories

/-! ### The output -/

section Output

variable {content : ByteArray} {executable : Bool}

theorem View.file (view : View start outputs key shared own)
    (isOutput : outputs key = some location) (notRoot : location ≠ [])
    (fileOrFree : ∀ old, own.node? location = some old → ∃ bytes flag, old = .file bytes flag)
    (sharedWellFormed : (shared.set location (.file content executable)).WellFormed)
    (ownWellFormed : (own.set location (.file content executable)).WellFormed) :
    View start outputs key (shared.set location (.file content executable))
      (own.set location (.file content executable)) where
  sharedBuilt := by
    refine view.sharedBuilt.file sharedWellFormed ⟨key, isOutput⟩ notRoot ?_
    rw [view.sameOutput location isOutput]
    exact fileOrFree
  ownBuilt := view.ownBuilt.file ownWellFormed isOutput notRoot fileOrFree
  sameOutput := by
    intro other isToo
    obtain rfl := Option.some.inj (isOutput.symm.trans isToo)
    rw [FileTree.node?_set_same notRoot, FileTree.node?_set_same notRoot]
  sameDirectories := by
    intro other stands
    by_cases same : other = location
    · subst same
      rw [FileTree.node?_set_same notRoot] at stands
      exact absurd stands (by simp)
    · rw [FileTree.node?_set_other notRoot same] at stands ⊢
      exact view.sameDirectories other stands

/-- The output is written alike in both trees, unless it is refused in both. -/
theorem View.change (view : View start outputs key shared own)
    (layout : Layout start task inputs outputs)
    (notMissing : own.find .making (task key).outputPath ≠ .error .missing)
    (content : ByteArray → ByteArray) :
    (∃ fault, own.change (task key).outputPath content = .error fault ∧
        shared.change (task key).outputPath content = .error fault) ∨
      ∃ location bytes flag, outputs key = some location ∧ location ≠ [] ∧
        (∀ old, own.node? location = some old → ∃ bytes flag, old = .file bytes flag) ∧
        own.change (task key).outputPath content =
          .ok (own.set location (.file bytes flag)) ∧
        shared.change (task key).outputPath content =
          .ok (shared.set location (.file bytes flag)) := by
  cases leads : own.find .making (task key).outputPath with
  | error fault =>
      have lasting : fault ≠ .missing := by
        rintro rfl
        exact notMissing leads
      have broken := FileTree.find_error_grows view.ownBuilt.wellFormed view.grows lasting leads
      exact .inl ⟨fault, FileTree.change_of_find_error leads,
        FileTree.change_of_find_error broken⟩
  | ok place =>
      have isOutput : outputs key = some place.location := FileTree.location_of_destination
        layout.wellFormed (layout.output key) view.ownBuilt.grows
          (FileTree.find_behindLink_of_making leads)
      have leadsShared : shared.find .making (task key).outputPath = .ok place := by
        rw [FileTree.find_grows view.grows leads]
        unfold FileTree.placeAt
        rw [view.sameOutput place.location isOutput]
        exact congrArg Except.ok (FileTree.place_of_find leads).symm
      cases held : place.held? with
      | none =>
          obtain ⟨fault, refuses⟩ := FileTree.change_of_not_held held
          exact .inl ⟨fault, refuses own _ leads, refuses shared _ leadsShared⟩
      | some file =>
          obtain ⟨old, executable⟩ := file
          obtain ⟨notRoot, fileOrFree⟩ := FileTree.fileOrFree_of_held leads held
          exact .inr ⟨place.location, content old, executable, isOutput, notRoot, fileOrFree,
            FileTree.change_of_find leads held, FileTree.change_of_find leadsShared held⟩

end Output

/-! ### Steps -/

/-- A step in both trees: it is answered alike, the task goes on seeing its own tree, and so do
the others. -/
structure Unnoticed (start : FileTree) (outputs : κ → Option Location) (key : κ)
    (shared own : FileTree) (step : FileStep) : Prop where
  answer : (shared.perform step).1 = (own.perform step).1
  view : View start outputs key (shared.perform step).2 (own.perform step).2
  others : ∀ other theirs, other ≠ key → View start outputs other shared theirs →
    View start outputs other (shared.perform step).2 theirs

variable {step : FileStep}

/-- A step that changes no tree and is answered alike. -/
theorem unnoticed_of_reading (view : View start outputs key shared own)
    (reading : ∀ tree : FileTree, (tree.perform step).2 = tree)
    (answer : (shared.perform step).1 = (own.perform step).1) :
    Unnoticed start outputs key shared own step where
  answer := answer
  view := by
    rw [reading, reading]
    exact view
  others := by
    rw [reading]
    exact fun _ _ _ views => views

theorem unnoticed_makes (layout : Layout start task inputs outputs)
    (view : View start outputs key shared own) :
    Unnoticed start outputs key shared own
      (.makeDirectories (task key).outputPath.parent) := by
  obtain ⟨reply, made, makes, above⟩ :=
    FileTree.makeDirectories_of_destination layout.wellFormed (layout.output key)
  have normalParent := Path.parent_isNormal (layout.normal key)
  have clearShared := layout.clear view.sharedBuilt (fun _ isPlace => isPlace) above
  have clearOwn := layout.clear view.ownBuilt (fun _ isOutput => ⟨key, isOutput⟩) above
  have inShared := makes shared view.sharedBuilt.grows view.sharedBuilt.wellFormed clearShared
  have inOwn := makes own view.ownBuilt.grows view.ownBuilt.wellFormed clearOwn
  have keptShared :=
    FileTree.makeDirectories_wellFormed view.sharedBuilt.wellFormed normalParent
  have keptOwn := FileTree.makeDirectories_wellFormed view.ownBuilt.wellFormed normalParent
  rw [inShared] at keptShared
  rw [inOwn] at keptOwn
  have next := view.directories above clearShared keptShared.1 keptOwn.1
  refine ⟨?_, ?_, ?_⟩
  · change (shared.makeDirectories _).1 = (own.makeDirectories _).1
    rw [inShared, inOwn]
  · change View start outputs key (shared.makeDirectories _).2 (own.makeDirectories _).2
    rw [inShared, inOwn]
    exact next
  · intro other theirs different views
    change View start outputs other (shared.makeDirectories _).2 theirs
    rw [inShared]
    refine views.of_shared next.sharedBuilt (FileTree.grows_withDirectories shared made) ?_
    intro location isOutput
    have notMade : location ∉ made := by
      intro member
      obtain ⟨_, place, isPlace, inside, _⟩ := above location member
      exact layout.apart other key different location place isOutput isPlace inside
    rw [FileTree.node?_withDirectories]
    simp [notMade]

/-- What a step that writes to a path answers, and the tree after it. -/
def writing (path : Path) (content : ByteArray → ByteArray) (tree : FileTree) :
    Except FileFault Unit × FileTree :=
  match tree.change path content with
  | .ok changed => (.ok (), changed)
  | .error fault => (.error fault, tree)

theorem writing_alike (layout : Layout start task inputs outputs)
    (view : View start outputs key shared own)
    (notMissing : own.find .making (task key).outputPath ≠ .error .missing)
    (content : ByteArray → ByteArray) :
    (writing (task key).outputPath content shared).1 =
        (writing (task key).outputPath content own).1 ∧
      View start outputs key (writing (task key).outputPath content shared).2
        (writing (task key).outputPath content own).2 ∧
      ∀ other theirs, other ≠ key → View start outputs other shared theirs →
        View start outputs other (writing (task key).outputPath content shared).2 theirs := by
  unfold writing
  rcases view.change layout notMissing content with
    ⟨fault, refusesOwn, refusesShared⟩ |
    ⟨location, bytes, flag, isOutput, notRoot, fileOrFree, writesOwn, writesShared⟩
  · rw [refusesOwn, refusesShared]
    exact ⟨rfl, view, fun _ _ _ views => views⟩
  · have next := view.file isOutput notRoot fileOrFree
      (view.sharedBuilt.wellFormed.change (layout.normal key) writesShared)
      (view.ownBuilt.wellFormed.change (layout.normal key) writesOwn)
    rw [writesOwn, writesShared]
    refine ⟨rfl, next, fun other theirs different views => ?_⟩
    refine views.of_shared next.sharedBuilt ?_ ?_
    · refine FileTree.grows_set notRoot (by simp) fun old stands => ?_
      rw [view.sameOutput location isOutput] at stands
      obtain ⟨content, executable, rfl⟩ := fileOrFree old stands
      rfl
    · intro place isPlace
      have notSame : place ≠ location := by
        rintro rfl
        exact layout.apart other key different place place isPlace isOutput (List.prefix_refl _)
      exact FileTree.node?_set_other notRoot notSame

/-- Every step that a task takes on its own goes unnoticed among the others. -/
theorem unnoticed (layout : Layout start task inputs outputs)
    (view : View start outputs key shared own) (takes : Task.Takes (task key) own step) :
    Unnoticed start outputs key shared own step := by
  cases takes with
  | makes => exact unnoticed_makes layout view
  | truncates text notMissing =>
      obtain ⟨answer, next, others⟩ :=
        writing_alike layout view notMissing fun _ => text.toUTF8
      exact ⟨answer, next, others⟩
  | appends text notMissing =>
      obtain ⟨answer, next, others⟩ :=
        writing_alike layout view notMissing fun old => old ++ text.toUTF8
      exact ⟨answer, next, others⟩
  | lists =>
      apply unnoticed_of_reading view fun _ => rfl
      change shared.list _ _ = own.list _ _
      rw [layout.list_input view.sharedBuilt (fun _ isPlace => isPlace),
        layout.list_input view.ownBuilt fun _ isOutput => ⟨key, isOutput⟩]
  | @inspects base relative names node leads named =>
      apply unnoticed_of_reading view fun _ => rfl
      change shared.inspect _ = own.inspect _
      obtain ⟨leadsShared, namedShared⟩ := layout.names_input view leads named
      cases usable : ((task key).inputDir.join relative).isUsable with
      | true =>
          rw [named.inspect view.ownBuilt.wellFormed leads usable,
            namedShared.inspect view.sharedBuilt.wellFormed leadsShared usable]
      | false =>
          unfold FileTree.inspect
          rw [FileTree.find_unusable usable, FileTree.find_unusable usable]
  | @reads base relative names content executable leads named =>
      apply unnoticed_of_reading view fun _ => rfl
      change shared.read _ = own.read _
      obtain ⟨leadsShared, namedShared⟩ := layout.names_input view leads named
      cases usable : ((task key).inputDir.join relative).isUsable with
      | true =>
          have found := named.find view.ownBuilt.wellFormed leads usable
          have foundShared := namedShared.find view.sharedBuilt.wellFormed leadsShared usable
          unfold FileTree.read
          rw [FileTree.findNode_of_find (FileTree.find_behindLink_of_atLink found (by simp)),
            FileTree.findNode_of_find (FileTree.find_behindLink_of_atLink foundShared (by simp))]
      | false =>
          unfold FileTree.read FileTree.findNode
          rw [FileTree.find_unusable usable, FileTree.find_unusable usable]

/-- Tasks that are apart are isolated. -/
theorem isolated (layout : Layout start task inputs outputs) :
    Program.Isolated (View start outputs) fun key => Task.Takes (task key) where
  answers := fun _ _ _ _ view takes => (unnoticed layout view takes).answer
  follows := fun _ _ _ _ view takes => (unnoticed layout view takes).view
  others := fun _ _ _ _ view takes => (unnoticed layout view takes).others

end TemplateBundle.Build
