import TemplateBundle.Proofs.FileTree.Making
import TemplateBundle.Proofs.Program.Interleaving
import TemplateBundle.Proofs.Task.Skipping

/-!
Contract: the steps that a task takes on its own.

Owns: the six kinds of steps of a task, each with what is known of the tree that it is taken in,
and that every step of a run is one of them.

Does not own: what the steps of one task do to another (`Proofs.Build`).
-/

namespace TemplateBundle.Task

open OutputStream (joined finished after)

/-- The steps of a task: the directory of the output is made, the output is written where
nothing is missing on the way to it, the input directory is listed, and what is listed in it is
inspected and, if it is a file, read. -/
inductive Takes (options : Options) (tree : FileTree) : FileStep → Prop
  | makes : Takes options tree (.makeDirectories options.outputPath.parent)
  | truncates (text : String) : tree.find .making options.outputPath ≠ .error .missing →
      Takes options tree (.truncate options.outputPath text)
  | appends (text : String) : tree.find .making options.outputPath ≠ .error .missing →
      Takes options tree (.append options.outputPath text)
  | lists : Takes options tree (.list options.inputDir options.recursive)
  | inspects {base : Location} {relative : String} {names : List String} {node : Node} :
      tree.findNode options.inputDir = .ok (base, .directory) →
      tree.Names base relative names node →
      Takes options tree (.inspect (options.inputDir.join relative))
  | reads {base : Location} {relative : String} {names : List String} {content : ByteArray}
      {executable : Bool} : tree.findNode options.inputDir = .ok (base, .directory) →
      tree.Names base relative names (.file content executable) →
      Takes options tree (.read (options.inputDir.join relative))

variable {allowed : FileTree → FileStep → Prop} {environment : Environment} {options : Options}
  {tree base : FileTree} {path : Path} {location : Location} {executable : Bool}

/-! ### Parts without steps -/

theorem toWork_follows {α : Type} (telling : Telling α) (tree : FileTree) :
    Program.Follows allowed telling.toWork.run tree := by
  change Program.Follows allowed
    ((Program.tell (telling.run []).2) >>= fun _ => Program.done (telling.run []).1) tree
  exact (Program.follows_bind _ _ _).mpr ⟨Program.follows_tell _, trivial⟩

theorem assembling_follows {α : Type} (work : Assembling α) (bundle : Bundle)
    (tree : FileTree) : Work.Follows allowed (assembling bundle work) tree := by
  unfold assembling
  rcases work.run bundle with ⟨failure | value, changed⟩
  · exact Work.follows_bind (Work.follows_lift (Program.follows_tell _)) fun _ _ _ => trivial
  · exact Work.follows_bind (Work.follows_lift (Program.follows_tell _)) fun _ _ _ => trivial

theorem written_follows (result : Except Failure Unit × OutputStream) (tree : FileTree) :
    Work.Follows allowed (written result) tree := by
  rcases result with ⟨failure | ⟨⟩, stream⟩
  · exact trivial
  · exact trivial

/-! ### Parts that take a step -/

theorem ensureDirectory_follows (makes : allowed tree (.makeDirectories path)) :
    Work.Follows allowed (ensureDirectory path) tree := by
  unfold ensureDirectory
  by_cases here : path.toString = "."
  · rw [if_pos here]
    exact trivial
  · rw [if_neg here]
    refine Work.follows_bind (Work.follows_lift ((Program.follows_perform _).mpr makes)) ?_
    rintro (fault | ⟨⟩) changed _
    · exact trivial
    · exact trivial

theorem start_follows {stream : OutputStream} {text : String}
    (truncates : allowed tree (.truncate stream.path text)) :
    (stream.start text).Follows allowed tree := by
  unfold OutputStream.start
  refine (Program.follows_bind _ _ _).mpr ⟨(Program.follows_perform _).mpr truncates, ?_⟩
  split
  · exact trivial
  · exact trivial

theorem append_follows {stream : OutputStream} {text : String}
    (appends : ∀ piece, allowed tree (.append stream.path piece)) :
    (stream.append text).Follows allowed tree := by
  unfold OutputStream.append
  by_cases empty : text = ""
  · rw [if_pos empty]
    exact trivial
  · rw [if_neg empty]
    refine (Program.follows_bind _ _ _).mpr ⟨(Program.follows_perform _).mpr (appends _), ?_⟩
    split
    · exact trivial
    · exact trivial

theorem readText_follows (reads : allowed tree (.read path)) :
    (readText path).Follows allowed tree := by
  unfold readText
  refine (Program.follows_bind _ _ _).mpr ⟨(Program.follows_perform _).mpr reads, ?_⟩
  split
  · exact trivial
  · split
    · exact trivial
    · exact trivial

theorem compiled?_follows {template : Template} (reads : allowed tree (.read template.path)) :
    Work.Follows allowed (compiled? environment options template) tree := by
  unfold compiled?
  refine Work.follows_bind (Work.follows_lift (readText_follows reads)) ?_
  rintro (fault | source) changed _
  · exact trivial
  · refine Work.follows_bind (Work.follows_lift (toWork_follows _ _)) ?_
    rintro (failure | compiled) changed _
    · cases failure <;> exact trivial
    · exact trivial

/-! ### Templates -/

theorem classify_follows {names : List String}
    (inspects : ∀ relative ∈ names, allowed tree (.inspect (options.inputDir.join relative))) :
    Work.Follows allowed (Template.classify options options.inputDir names) tree := by
  induction names with
  | nil => exact trivial
  | cons relative rest inductionHypothesis =>
      have tail := inductionHypothesis fun other member =>
        inspects other (List.mem_cons_of_mem _ member)
      unfold Template.classify
      split
      · refine Work.follows_bind (Work.follows_lift
          ((Program.follows_perform _).mpr (inspects relative (by simp)))) ?_
        rintro outcome changed inspected
        rw [Work.effect_lift, Program.effect_perform] at inspected
        obtain rfl : tree = changed := congrArg Prod.snd inspected
        split
        · exact Work.follows_bind tail fun _ _ _ => trivial
        · exact trivial
        · exact Work.follows_bind trivial fun _ _ told => by
            obtain rfl := congrArg Prod.snd told
            exact tail
      · exact tail

theorem discover_follows (lists : allowed tree (.list options.inputDir options.recursive))
    (inspects : ∀ names, tree.list options.inputDir options.recursive = .ok names →
      ∀ relative ∈ names, allowed tree (.inspect (options.inputDir.join relative))) :
    Work.Follows allowed (Template.discover options) tree := by
  unfold Template.discover
  refine Work.follows_bind (Work.follows_lift ((Program.follows_perform _).mpr lists)) ?_
  intro outcome changed listed
  rw [Work.effect_lift, Program.effect_perform] at listed
  obtain ⟨answers, stays⟩ := Prod.mk.inj listed
  obtain rfl : tree = changed := stays
  cases outcome with
  | error fault => exact trivial
  | ok names =>
      have sorted : ∀ relative ∈ Template.sortNames names,
          allowed tree (.inspect (options.inputDir.join relative)) :=
        fun relative member => inspects names (Except.ok.inj answers) relative
          (Template.mem_sortNames member)
      refine Work.follows_bind (classify_follows sorted) fun templates later _ => ?_
      exact Work.follows_bind (Work.follows_lift trivial) fun _ _ _ => trivial

/-- After a template the output holds some pieces, and the options are the same. -/
theorem addTemplate_ok (writes : base.WritesTo path location executable) {bundle : Bundle}
    {pieces : List String} {template : Template} {next : TaskState} {changed : FileTree}
    (adds : Work.effect (addTemplate environment
        ⟨bundle, after path bundle.options.separator pieces⟩ template)
      (base.holding location executable (joined bundle.options.separator pieces)) =
        (.ok next, changed)) :
    ∃ later morePieces, later.options = bundle.options ∧
      next = ⟨later, after path bundle.options.separator morePieces⟩ ∧
      changed = base.holding location executable
        (joined bundle.options.separator morePieces) := by
  rw [addTemplate_effect environment writes] at adds
  rcases outcome : attempt environment bundle.options
      (base.holding location executable (joined bundle.options.separator pieces)) template with
    failure | (_ | compiled)
  · rw [outcome] at adds
    exact absurd (congrArg Prod.fst adds) (by simp)
  · rw [outcome] at adds
    obtain ⟨sameNext, rfl⟩ := Prod.mk.inj adds
    exact ⟨bundle.skip template.relative, pieces, rfl, (Except.ok.inj sameNext).symm, rfl⟩
  · rw [outcome] at adds
    dsimp only at adds
    rcases assembled : Assembling.effect
        (Bundle.assemble environment template compiled.body compiled.ast) bundle with
      ⟨failure | fragment, later⟩
    · rw [assembled] at adds
      exact absurd (congrArg Prod.fst adds) (by simp)
    · rw [assembled] at adds
      obtain ⟨sameNext, rfl⟩ := Prod.mk.inj adds
      have optionsKept := (Bundle.assemble_leavesTally _ _ _ _).keepsOptions assembled
      exact ⟨later.count, _, optionsKept, (Except.ok.inj sameNext).symm, rfl⟩

theorem addTemplate_follows {state : TaskState} {template : Template}
    (reads : allowed tree (.read template.path))
    (appends : ∀ piece, allowed tree (.append state.stream.path piece)) :
    Work.Follows allowed (addTemplate environment state template) tree := by
  unfold addTemplate
  refine Work.follows_bind (compiled?_follows reads) ?_
  rintro (_ | compiled) changed compiles
  · exact trivial
  · rw [compiled?_effect] at compiles
    obtain rfl := congrArg Prod.snd compiles
    refine Work.follows_bind (assembling_follows _ _ _) ?_
    rintro ⟨fragment, bundle⟩ changed assembles
    rw [assembling_effect] at assembles
    obtain rfl := congrArg Prod.snd assembles
    refine Work.follows_bind (Work.follows_lift (Program.follows_tell _)) ?_
    rintro _ changed tells
    rw [tell_effect] at tells
    obtain rfl := congrArg Prod.snd tells
    refine Work.follows_bind (Work.follows_lift (append_follows appends)) fun _ _ _ => ?_
    exact Work.follows_bind (written_follows _ _) fun _ _ _ => trivial

/-- Each template is read, and what is made of it appended, whatever the output holds by then. -/
theorem addTemplates_follows (writes : base.WritesTo path location executable)
    {templates : List Template} {bundle : Bundle} {pieces : List String} {separator : String}
    (sameSeparator : bundle.options.separator = separator)
    (reads : ∀ template ∈ templates, ∀ text,
      allowed (base.holding location executable text) (.read template.path))
    (appends : ∀ text piece,
      allowed (base.holding location executable text) (.append path piece)) :
    Work.Follows allowed (addTemplates environment ⟨bundle, after path separator pieces⟩ templates)
      (base.holding location executable (joined separator pieces)) := by
  subst sameSeparator
  induction templates generalizing bundle pieces with
  | nil => exact trivial
  | cons template rest inductionHypothesis =>
      rw [addTemplates]
      refine Work.follows_bind
        (addTemplate_follows (reads template (by simp) _) (appends _)) ?_
      intro next changed adds
      obtain ⟨later, morePieces, sameOptions, rfl, rfl⟩ := addTemplate_ok writes adds
      rw [← sameOptions]
      exact inductionHypothesis fun other member =>
        reads other (List.mem_cons_of_mem _ member)

/-! ### The output -/

theorem openOutput_follows
    (makes : allowed tree (.makeDirectories options.outputPath.parent))
    (truncates : ∀ base,
      Work.effect (ensureDirectory options.outputPath.parent) tree = (.ok (), base) →
        ∀ text, allowed base (.truncate options.outputPath text)) :
    Work.Follows allowed (openOutput environment options) tree := by
  unfold openOutput
  dsimp only
  refine Work.follows_bind (ensureDirectory_follows makes) fun _ base ensured => ?_
  refine Work.follows_bind (assembling_follows _ _ _) ?_
  rintro ⟨lines, bundle⟩ changed assembles
  rw [assembling_effect] at assembles
  obtain rfl := congrArg Prod.snd assembles
  refine Work.follows_bind (Work.follows_lift (start_follows (truncates base ensured _))) ?_
  intro _ _ _
  exact Work.follows_bind (written_follows _ _) fun _ _ _ => trivial

theorem close_follows (writes : base.WritesTo path location executable) {separator : String}
    {pieces : List String} {text : String}
    (appends : ∀ held piece,
      allowed (base.holding location executable held) (.append path piece)) :
    ((after path separator pieces).close text).Follows allowed
      (base.holding location executable (joined separator pieces)) := by
  unfold OutputStream.close
  refine (Program.follows_bind _ _ _).mpr ⟨append_follows (appends _), ?_⟩
  rw [OutputStream.append_effect writes]
  dsimp only
  split
  · exact (Program.follows_bind _ _ _).mpr
      ⟨(Program.follows_perform _).mpr (appends _ _), trivial⟩
  · exact trivial

theorem tellEnd_follows (bundle : Bundle) (tree : FileTree) :
    Work.Follows allowed (tellEnd bundle) tree := by
  unfold tellEnd
  by_cases some : bundle.skipped ≠ []
  · rw [if_pos some]
    exact trivial
  · rw [if_neg some]
    exact trivial

theorem fill_follows (writes : base.WritesTo path location executable) {bundle : Bundle}
    {pieces : List String} (sameOptions : bundle.options = options)
    (discovers : Work.Follows allowed (Template.discover options)
      (base.holding location executable (joined options.separator pieces)))
    (reads : ∀ templates,
      Template.discovered options
        (base.holding location executable (joined options.separator pieces)) = .ok templates →
      ∀ template ∈ templates, ∀ text,
        allowed (base.holding location executable text) (.read template.path))
    (appends : ∀ text piece,
      allowed (base.holding location executable text) (.append path piece)) :
    Work.Follows allowed
      (fill environment options ⟨bundle, after path options.separator pieces⟩)
      (base.holding location executable (joined options.separator pieces)) := by
  have sameSeparator : bundle.options.separator = options.separator := by rw [sameOptions]
  unfold fill
  refine Work.follows_bind discovers ?_
  intro templates changed found
  rw [Template.discover_effect] at found
  obtain ⟨finds, rfl⟩ := Prod.mk.inj found
  refine Work.follows_bind
    (addTemplates_follows writes sameSeparator (reads templates finds) appends) ?_
  intro state changed adds
  rw [addTemplates_effect environment writes templates bundle pieces _ sameSeparator] at adds
  obtain ⟨outcome, rfl⟩ := Prod.mk.inj adds
  -- What is appended last comes after the fragments that were written.
  obtain ⟨last, rfl⟩ : ∃ last, state = ⟨last, after path options.separator (pieces ++
      (Bundle.progress environment bundle (replay environment
        ⟨bundle, after path options.separator pieces⟩ templates
        (base.holding location executable (joined options.separator pieces)))).fragments.map
          (Fragment.render options.separator))⟩ := by
    cases ends : (Bundle.progress environment bundle (replay environment
      ⟨bundle, after path options.separator pieces⟩ templates
      (base.holding location executable (joined options.separator pieces)))).outcome with
    | error failure => simp [ends, Except.map] at outcome
    | ok last =>
        rw [ends] at outcome
        exact ⟨last, (Except.ok.inj outcome).symm⟩
  refine Work.follows_bind ?_ fun _ _ _ => ?_
  · unfold closeOutput
    dsimp only
    refine Work.follows_bind (Work.follows_lift (close_follows writes appends)) fun _ _ _ => ?_
    exact Work.follows_bind (written_follows _ _) fun _ _ _ => trivial
  · exact Work.follows_bind (tellEnd_follows _ _) fun _ _ _ => trivial

/-! ### The whole run -/

/-- When the directory of the output is there, nothing is missing on the way to the output. -/
theorem find_making_of_ensured (wellFormed : tree.WellFormed)
    (normal : options.outputPath.IsNormal) {target : Option Location}
    (destination : tree.Destination options.outputPath target)
    (ensured : Work.effect (ensureDirectory options.outputPath.parent) tree = (.ok (), base)) :
    base.find .making options.outputPath ≠ .error .missing := by
  have normalParent := Path.parent_isNormal normal
  obtain ⟨baseWellFormed, grows⟩ := ensureDirectory_wellFormed wellFormed normalParent ensured
  refine FileTree.find_making_of_parent wellFormed destination grows baseWellFormed ?_
  rcases ensureDirectory_ok ensured with ⟨dot, rfl⟩ | ⟨_, made⟩
  · rw [Path.eq_here_of_toString normalParent dot]
    exact FileTree.reaches_start wellFormed 0
  · exact FileTree.reachesDirectory_of_makeDirectories made

/-- A template that is found is read as a file in the input directory. -/
theorem takes_read {templates : List Template} {template : Template} {text later : String}
    (writes : base.WritesTo path location executable)
    (wellFormed : ∀ held, (base.holding location executable held).WellFormed)
    (found : Template.discovered options (base.holding location executable text) = .ok templates)
    (member : template ∈ templates) :
    Takes options (base.holding location executable later) (.read template.path) := by
  obtain ⟨inputBase, leads, selected⟩ := Template.discovered_listed found
  obtain ⟨names, content, flag, named, _⟩ :=
    Template.file_of_selected (wellFormed text) leads selected member
  have same : template.path = options.inputDir.join template.relative :=
    congrArg Template.path (Template.select_sound selected template member).2.2
  have grows := writes.grows text later
  obtain ⟨node, leadsLater, sameShape⟩ := FileTree.findNode_grows grows leads
  rw [FileTree.shape_eq_directory sameShape] at leadsLater
  obtain ⟨bytes, executableLater, stands⟩ := grows.file (named.stands (wellFormed text))
  have entry := FileTree.mem_entries_of_node? stands (by simp [named.some])
  rw [same]
  exact .reads leadsLater ⟨named.some, named.text, entry⟩

/-- Every step that a task takes on its own is one of the six kinds. -/
theorem run_follows (wellFormed : tree.WellFormed) (normal : options.outputPath.IsNormal)
    {target : Option Location} (destination : tree.Destination options.outputPath target) :
    (run environment options).Follows (Takes options) tree := by
  change Work.Follows (Takes options) (work environment options) tree
  cases available : environment.compiler.available with
  | error failure =>
      unfold work
      rw [available]
      exact trivial
  | ok _ =>
      rw [work_eq available]
      refine Work.follows_bind (Work.follows_lift trivial) fun _ _ told => ?_
      rw [Work.effect_lift, Program.effect_log] at told
      obtain rfl := congrArg Prod.snd told
      refine Work.follows_bind (openOutput_follows .makes fun base ensured text => ?_) ?_
      · exact .truncates text (find_making_of_ensured wellFormed normal destination ensured)
      · intro state opened opens
        obtain ⟨base, location, executable, lines, opening⟩ := openOutput_ok opens
        obtain ⟨_, holdingWellFormed⟩ := opening.wellFormed wellFormed normal
        rw [opening.state_eq, opening.holds]
        refine fill_follows opening.writes opening.sameOptions ?_ ?_ ?_
        · refine discover_follows .lists fun names lists relative member => ?_
          obtain ⟨inputBase, leads, rfl⟩ := FileTree.list_ok lists
          obtain ⟨names, node, named, _⟩ := FileTree.names_of_listed member
          exact .inspects leads named
        · exact fun templates found template member text =>
            takes_read opening.writes holdingWellFormed found member
        · intro text piece
          exact .appends piece (by rw [opening.writes.leads]; simp)

end TemplateBundle.Task
