import TemplateBundle.Proofs.FileTree.Walk

/-!
Contract: one file that is written again and again.

Owns: the file that what is written to a path goes to, the tree in which that file holds a
given text, and the answers of that tree: appending adds to the text, reading gives it back,
and no other path sees the difference.
-/

namespace TemplateBundle

/-- What a file at a place holds before it is written, and whether it can be run. A file can be
made at a free name; nothing else can be written. -/
def Place.held? : Place → Option (ByteArray × Bool)
  | .occupied _ (.file content executable) => some (content, executable)
  | .occupied _ _ => none
  | .vacant _ => some (ByteArray.empty, false)

namespace FileTree

variable {tree changed : FileTree} {path : Path} {location : Location} {executable : Bool}
  {place : Place} {old : ByteArray} {content : ByteArray → ByteArray}

theorem change_ok (succeeds : tree.change path content = .ok changed) :
    ∃ place old executable, tree.find .making path = .ok place ∧
      place.held? = some (old, executable) ∧
      changed = tree.set place.location (.file (content old) executable) := by
  unfold change at succeeds
  split at succeeds
  · rename_i location old executable leads
    exact ⟨_, old, executable, leads, rfl, (Except.ok.inj succeeds).symm⟩
  · simp at succeeds
  · simp at succeeds
  · rename_i location leads
    exact ⟨_, ByteArray.empty, false, leads, rfl, (Except.ok.inj succeeds).symm⟩
  · simp at succeeds

theorem change_of_find (leads : tree.find .making path = .ok place)
    (held : place.held? = some (old, executable)) :
    tree.change path content = .ok (tree.set place.location (.file (content old) executable)) := by
  unfold change
  rw [leads]
  rcases place with ⟨location, node⟩ | location
  · cases node with
    | file bytes flag =>
        obtain ⟨rfl, rfl⟩ := Prod.mk.inj (Option.some.inj held)
        rfl
    | directory => simp [Place.held?] at held
    | link target => simp [Place.held?] at held
    | pipe => simp [Place.held?] at held
  · obtain ⟨rfl, rfl⟩ := Prod.mk.inj (Option.some.inj held)
    rfl

theorem change_of_find_error {fault : FileFault} (broken : tree.find .making path = .error fault) :
    tree.change path content = .error fault := by
  unfold change
  rw [broken]

/-- What cannot be written is refused for a reason that lies in what stands there. -/
theorem change_of_not_held (held : place.held? = none) :
    ∃ fault, ∀ (tree : FileTree) (content : ByteArray → ByteArray),
      tree.find .making path = .ok place → tree.change path content = .error fault := by
  rcases place with ⟨location, node⟩ | location
  · cases node with
    | file bytes flag => simp [Place.held?] at held
    | directory =>
        refine ⟨.isDirectory, fun tree content leads => ?_⟩
        unfold change
        rw [leads]
    | link target =>
        refine ⟨.denied, fun tree content leads => ?_⟩
        unfold change
        rw [leads]
    | pipe =>
        refine ⟨.denied, fun tree content leads => ?_⟩
        unfold change
        rw [leads]
  · simp [Place.held?] at held

/-- What can be written is a file or a free name. -/
theorem fileOrFree_of_held (leads : tree.find .making path = .ok place)
    (held : place.held? = some (old, executable)) :
    place.location ≠ [] ∧ ∀ node, tree.node? place.location = some node →
      ∃ bytes flag, node = .file bytes flag := by
  have same := place_of_find leads
  cases stands : tree.node? place.location with
  | none => exact ⟨ne_root_of_vacant stands, by simp⟩
  | some found =>
      rw [same, placeAt_of_node stands] at held
      cases found with
      | file bytes flag =>
          refine ⟨?_, fun node same => ⟨bytes, flag, (Option.some.inj same).symm⟩⟩
          intro isRoot
          rw [isRoot, node?_root] at stands
          simp at stands
      | directory => simp [Place.held?] at held
      | link target => simp [Place.held?] at held
      | pipe => simp [Place.held?] at held

/-- The tree with a file at a location that holds a text. -/
def holding (tree : FileTree) (location : Location) (executable : Bool) (text : String) :
    FileTree :=
  tree.set location (.file text.toUTF8 executable)

/-- What is written to a path goes to a file at a location, which is there or can be made. -/
structure WritesTo (tree : FileTree) (path : Path) (location : Location) (executable : Bool) :
    Prop where
  notRoot : location ≠ []
  fileOrFree : ∀ old, tree.node? location = some old → ∃ bytes flag, old = .file bytes flag
  leads : ∀ text, (tree.holding location executable text).find .making path =
    .ok (.occupied location (.file text.toUTF8 executable))

theorem grows_holding (notRoot : location ≠ [])
    (fileOrFree : ∀ old, tree.node? location = some old → ∃ bytes flag, old = .file bytes flag)
    (text : String) : Grows tree (tree.holding location executable text) := by
  refine grows_set notRoot (fun _ impossible => by cases impossible) ?_
  intro old stands
  obtain ⟨bytes, flag, rfl⟩ := fileOrFree old stands
  rfl

/-- The places where writing can begin: a file, or a free name. -/
theorem WritesTo.of_find (leads : tree.find .making path = .ok place)
    (notRoot : place.location ≠ [])
    (fileOrFree : ∀ old, tree.node? place.location = some old →
      ∃ bytes flag, old = .file bytes flag) :
    tree.WritesTo path place.location executable where
  notRoot := notRoot
  fileOrFree := fileOrFree
  leads := by
    intro text
    rw [find_grows (grows_holding notRoot fileOrFree text) leads]
    exact congrArg Except.ok (placeAt_of_node (node?_set_same notRoot))

/-- Whether a path can be written does not depend on the text. -/
theorem truncate_any (tree : FileTree) (path : Path) :
    (∃ location executable, tree.WritesTo path location executable ∧
      ∀ text, tree.truncate path text = .ok (tree.holding location executable text)) ∨
    ∃ fault, ∀ text, tree.truncate path text = .error fault := by
  cases leads : tree.find .making path with
  | error fault => exact .inr ⟨fault, fun text => change_of_find_error leads⟩
  | ok place =>
      cases held : place.held? with
      | none =>
          obtain ⟨fault, refuses⟩ := change_of_not_held held
          exact .inr ⟨fault, fun text => refuses tree _ leads⟩
      | some found =>
          obtain ⟨old, executable⟩ := found
          obtain ⟨notRoot, fileOrFree⟩ := fileOrFree_of_held leads held
          exact .inl ⟨place.location, executable, .of_find leads notRoot fileOrFree,
            fun text => change_of_find leads held⟩

/-- A truncation that succeeds leaves the file with the text alone. -/
theorem truncate_ok {text : String} (succeeds : tree.truncate path text = .ok changed) :
    ∃ location executable, tree.WritesTo path location executable ∧
      changed = tree.holding location executable text := by
  obtain ⟨place, old, executable, leads, held, rfl⟩ := change_ok succeeds
  obtain ⟨notRoot, fileOrFree⟩ := fileOrFree_of_held leads held
  exact ⟨place.location, executable, .of_find leads notRoot fileOrFree, rfl⟩

namespace WritesTo

variable (writes : tree.WritesTo path location executable)

include writes

theorem node?_holding (text : String) (other : Location) :
    (tree.holding location executable text).node? other =
      if other = location then some (.file text.toUTF8 executable) else tree.node? other :=
  node?_set writes.notRoot

/-- The file is made where it is written afterwards. -/
theorem location_eq (leads : tree.find .making path = .ok place) : place.location = location := by
  have grows : Grows tree (tree.holding location executable "") :=
    grows_holding writes.notRoot writes.fileOrFree ""
  have later := find_grows grows leads
  rw [writes.leads, Except.ok.injEq] at later
  have same := congrArg Place.location later
  rw [placeAt_location] at same
  exact same.symm

/-- What the file holds makes no difference to where other ways lead. -/
theorem grows (first second : String) :
    Grows (tree.holding location executable first) (tree.holding location executable second) where
  home := rfl
  kept := by
    intro other node stands
    rw [writes.node?_holding] at stands
    rw [writes.node?_holding]
    by_cases same : other = location
    · simp only [same, if_true, Option.some.injEq] at stands ⊢
      exact ⟨_, rfl, by subst stands; rfl⟩
    · simp only [same, if_false] at stands ⊢
      exact ⟨node, stands, rfl⟩
  added := by
    intro other target stands
    rw [writes.node?_holding] at stands
    rw [writes.node?_holding]
    by_cases same : other = location
    · simp [same]
    · simp only [same, if_false] at stands ⊢
      simp [stands]

/-- A path that is written can be written again, whatever its file holds by then. -/
theorem again (text : String) :
    (tree.holding location executable text).WritesTo path location executable := by
  refine .of_find (writes.leads text) writes.notRoot ?_
  intro old stands
  rw [Place.location, writes.node?_holding, if_pos rfl] at stands
  exact ⟨_, _, (Option.some.inj stands).symm⟩

theorem truncate_again (first second : String) :
    (tree.holding location executable first).truncate path second =
      .ok (tree.holding location executable second) := by
  unfold truncate
  rw [change_of_find (writes.leads first) rfl]
  exact congrArg Except.ok (set_twice _ _ _ _)

theorem append (text more : String) :
    (tree.holding location executable text).append path more =
      .ok (tree.holding location executable (text ++ more)) := by
  have joined : text.toUTF8 ++ more.toUTF8 = (text ++ more).toUTF8 :=
    String.toByteArray_append.symm
  unfold FileTree.append change
  rw [writes.leads]
  change Except.ok ((tree.set _ _).set _ (.file (text.toUTF8 ++ more.toUTF8) executable)) = _
  rw [set_twice, joined]
  rfl

theorem findNode (text : String) :
    (tree.holding location executable text).findNode path =
      .ok (location, .file text.toUTF8 executable) := by
  unfold FileTree.findNode
  rw [find_behindLink_of_making (writes.leads text)]
  rfl

theorem read (text : String) :
    (tree.holding location executable text).read path = .ok text.toUTF8 := by
  unfold FileTree.read
  rw [writes.findNode]

/-- A path that leads to another location leads to the same node, whatever the file holds. -/
theorem findNode_other {first : String} (second : String) {other : Path} {place : Location}
    {node : Node} (different : place ≠ location)
    (leads : (tree.holding location executable first).findNode other = .ok (place, node)) :
    (tree.holding location executable second).findNode other = .ok (place, node) := by
  have found := find_of_findNode leads
  have stands := node_of_find found
  rw [writes.node?_holding, if_neg different] at stands
  have standsLater : (tree.holding location executable second).node? place = some node := by
    rw [writes.node?_holding, if_neg different]
    exact stands
  refine findNode_of_find ?_
  rw [find_grows (writes.grows first second) found]
  exact congrArg Except.ok (placeAt_of_node standsLater)

theorem read_other {first : String} (second : String) {other : Path} {place : Location}
    {node : Node} (different : place ≠ location)
    (leads : (tree.holding location executable first).findNode other = .ok (place, node)) :
    (tree.holding location executable second).read other =
      (tree.holding location executable first).read other := by
  unfold FileTree.read
  rw [leads, writes.findNode_other second different leads]

end WritesTo

end FileTree

end TemplateBundle
