import Mathlib.Data.List.Forall2
import TemplateBundle.CommandLine.Run
import TemplateBundle.Proofs.TaskFile

/-!
Contract: the tasks that a configuration file names, by the form of its document.

Owns: the task entries of a document, the law that an accepted document names one task for each of
them, in order, that the three forms of a document agree, and that a build with a file runs the
tasks of the file and none in their place.

A list under `tasks` must hold something. A list that is the whole document is not asked: it is the
one document that is accepted and names no tasks.
-/

namespace TemplateBundle

variable {catalogue : Catalogue} {tree : FileTree} {path : Path} {document part : Value}
  {entries : List Value} {tasks : List Options}

namespace Options

theorem ofValues_ok_iff {values : List Value} :
    ofValues catalogue values = .ok tasks ↔
      List.Forall₂ (fun value options => ofValue catalogue value = .ok options) values tasks := by
  induction values generalizing tasks with
  | nil => cases tasks <;> simp [ofValues]
  | cons value rest inductionHypothesis =>
      unfold ofValues
      rw [List.forall₂_cons_left_iff]
      simp only [← inductionHypothesis]
      cases ofValue catalogue value with
      | error failure => simp
      | ok options =>
          cases ofValues catalogue rest with
          | error failure => simp
          | ok more => simp [eq_comm]

end Options

namespace TaskFile

/-- What loading a file comes to. -/
def loaded (catalogue : Catalogue) (tree : FileTree) (path : Path) :
    Except Failure (List Options) :=
  ((load catalogue path).run.run tree).value

/-- The path leads to a text that is this document. -/
def Holds (tree : FileTree) (path : Path) (document : Value) : Prop :=
  ∃ content text, tree.read path = .ok content ∧ Text.decodeUtf8? content = some text ∧
    Yaml.readDocument text = .ok document

theorem Holds.unique {one two : Value} (holds : Holds tree path one) (also : Holds tree path two) :
    one = two := by
  obtain ⟨content, text, bytes, decodes, reads⟩ := holds
  obtain ⟨_, _, sameBytes, sameText, same⟩ := also
  obtain rfl := Except.ok.inj (bytes.symm.trans sameBytes)
  obtain rfl := Option.some.inj (decodes.symm.trans sameText)
  exact Except.ok.inj (reads.symm.trans same)

theorem reaches_of_read {content : ByteArray} (reads : tree.read path = .ok content) :
    tree.reaches path = true := by
  unfold FileTree.reaches
  unfold FileTree.read at reads
  cases leads : tree.findNode path with
  | error fault => simp [leads] at reads
  | ok found => rfl

theorem loaded_of_holds (holds : Holds tree path document) :
    loaded catalogue tree path = ofDocument catalogue path document := by
  obtain ⟨content, text, bytes, decodes, reads⟩ := holds
  unfold loaded
  rw [load_outcome, if_pos (reaches_of_read bytes), bytes]
  simp only [decodes, ofText, reads]
  rfl

theorem holds_of_loaded (loads : loaded catalogue tree path = .ok tasks) :
    ∃ document, Holds tree path document ∧ ofDocument catalogue path document = .ok tasks := by
  unfold loaded at loads
  rw [load_outcome] at loads
  split at loads
  · cases bytes : tree.read path with
    | error fault => simp [bytes] at loads
    | ok content =>
        simp only [bytes] at loads
        cases decodes : Text.decodeUtf8? content with
        | none => simp [decodes] at loads
        | some text =>
            simp only [decodes, ofText] at loads
            cases reads : Yaml.readDocument text with
            | error refusal => simp [reads, Except.mapError, bind, Except.bind] at loads
            | ok document =>
                rw [reads] at loads
                exact ⟨document, ⟨content, text, bytes, decodes, reads⟩, loads⟩
  · simp at loads

/-! ### The forms of a document -/

/-- The forms of a document that names tasks, with its task entries in order: a list of them, a
mapping that has no key `tasks` and is the one entry itself, and a mapping with a list under that
key, which must hold something. -/
inductive Names : Value → List Value → Prop
  | list (entries : List Value) : Names (.list entries) entries
  | single (raw : Entries) : raw.getText? "tasks" = none → Names (.map raw) [.map raw]
  | under (raw : Entries) (entries : List Value) :
      raw.getText? "tasks" = some (.list entries) → entries ≠ [] → Names (.map raw) entries

theorem names_of_tells (tells : tasksPart path document = .ok part) :
    Names document (told part) := by
  unfold tasksPart at tells
  split at tells
  · simp at tells
  · rename_i raw
    split at tells
    · rename_i absent
      rw [← Except.ok.inj tells]
      exact .single raw absent
    · rename_i task rest found
      rw [← Except.ok.inj tells]
      exact .under raw _ found (List.cons_ne_nil _ _)
    · simp at tells
  · rename_i entries
    rw [← Except.ok.inj tells]
    exact .list entries
  · simp at tells

theorem Names.tells (names : Names document entries) (path : Path) :
    ∃ part, tasksPart path document = .ok part ∧ told part = entries := by
  cases names with
  | list _ => exact ⟨.list entries, rfl, rfl⟩
  | single raw absent => exact ⟨.map raw, by simp only [tasksPart, absent], rfl⟩
  | under raw _ found some =>
      obtain ⟨first, rest, rfl⟩ := List.exists_cons_of_ne_nil some
      exact ⟨.list (first :: rest), by simp only [tasksPart, found], rfl⟩

/-- Only a list that is the whole document has no entries. -/
theorem Names.eq_nil (names : Names document []) : document = .list [] := by
  cases names with
  | list _ => rfl
  | under _ _ _ some => exact absurd rfl some

theorem tasksOfValue_told (isTasks : (∃ raw, part = .map raw) ∨ ∃ items, part = .list items) :
    Options.tasksOfValue catalogue part = Options.ofValues catalogue (told part) := by
  rcases isTasks with ⟨raw, rfl⟩ | ⟨items, rfl⟩
  · simp only [Options.tasksOfValue, told, Options.ofValues]
    cases Options.ofValue catalogue (.map raw) <;> rfl
  · rfl

/-- What comes of a document is what comes of its entries. -/
theorem ofDocument_of_names (names : Names document entries) :
    ofDocument catalogue path document = Options.ofValues catalogue entries := by
  obtain ⟨part, tells, rfl⟩ := names.tells path
  rw [← tasksOfValue_told (tasksPart_isTasks tells)]
  unfold ofDocument
  rw [tells]
  rfl

theorem names_of_ofDocument (accepted : ofDocument catalogue path document = .ok tasks) :
    ∃ entries, Names document entries := by
  cases tells : tasksPart path document with
  | error fault => simp [ofDocument, tells, Except.mapError, bind, Except.bind] at accepted
  | ok part => exact ⟨told part, names_of_tells tells⟩

theorem loaded_of_names (holds : Holds tree path document) (names : Names document entries) :
    loaded catalogue tree path = Options.ofValues catalogue entries := by
  rw [loaded_of_holds holds, ofDocument_of_names names]

/-- A file is accepted if it holds a document in one of the forms, and each entry is accepted. -/
theorem loaded_ok_iff :
    loaded catalogue tree path = .ok tasks ↔
      ∃ document entries, Holds tree path document ∧ Names document entries ∧
        List.Forall₂ (fun entry options => Options.ofValue catalogue entry = .ok options) entries
          tasks := by
  constructor
  · intro loads
    obtain ⟨document, holds, accepted⟩ := holds_of_loaded loads
    obtain ⟨entries, names⟩ := names_of_ofDocument accepted
    rw [loaded_of_names holds names] at loads
    exact ⟨document, entries, holds, names, Options.ofValues_ok_iff.mp loads⟩
  · rintro ⟨document, entries, holds, names, accepted⟩
    rw [loaded_of_names holds names]
    exact Options.ofValues_ok_iff.mpr accepted

/-- A document in which some tasks stand under `tasks`, and nothing beside them. -/
def underTasks (entries : List Value) : Value := .map [(.text "tasks", .list entries)]

theorem names_underTasks (some : entries ≠ []) : Names (underTasks entries) entries :=
  .under _ entries (by rw [Entries.getText?_cons, if_pos rfl]) some

end TaskFile

/-! ### Builds -/

namespace CommandLine

variable {request : BuildRequest}

theorem decided_effect {α : Type} (outcome : Except Stop α) (tree : FileTree) :
    (decided outcome).run.effect tree = (outcome, tree) := rfl

theorem ok_of_ofFailure {α : Type} {outcome : Except Failure α} {value : α}
    (succeeds : ofFailure outcome = .ok value) : outcome = .ok value := by
  cases outcome with
  | error failure => simp [ofFailure] at succeeds
  | ok found => rw [Except.ok.inj succeeds]

theorem ok_of_ofUsage {α : Type} {outcome : Except UsageFault α} {value : α}
    (succeeds : ofUsage outcome = .ok value) : outcome = .ok value := by
  cases outcome with
  | error fault => simp [ofUsage] at succeeds
  | ok found => rw [Except.ok.inj succeeds]

theorem configTasks_effect (catalogue : Catalogue) (path : Path) (overrides : Entries)
    (tree : FileTree) :
    ((configTasks catalogue (some path) overrides).run.effect tree).1 =
      (ofFailure (TaskFile.loaded catalogue tree path)).bind fun tasks =>
        ofFailure (overrideEach catalogue overrides tasks) := by
  unfold TaskFile.loaded
  rw [Program.run_value]
  unfold configTasks
  change (Program.effect ((TaskFile.load catalogue path).run >>= _) tree).1 = _
  rw [Program.effect_bind]
  generalize (TaskFile.load catalogue path).run.effect tree = outcome
  obtain ⟨outcome, changed⟩ := outcome
  cases outcome <;> rfl

theorem overrideEach_ok {overrides : Entries} {changed : List Options}
    (succeeds : overrideEach catalogue overrides tasks = .ok changed) :
    List.Forall₂ (fun task other => task.override catalogue overrides = .ok other) tasks
      changed := by
  induction tasks generalizing changed with
  | nil =>
      obtain rfl := Except.ok.inj succeeds
      exact .nil
  | cons task rest inductionHypothesis =>
      unfold overrideEach at succeeds
      cases first : task.override catalogue overrides with
      | error failure => simp [first, bind, Except.bind] at succeeds
      | ok other =>
          cases others : overrideEach catalogue overrides rest with
          | error failure => simp [first, others, bind, Except.bind] at succeeds
          | ok more =>
              simp only [first, others, bind, Except.bind, Except.ok.injEq] at succeeds
              exact succeeds ▸ .cons first (inductionHypothesis others)

/-- What the tasks of a build with a file come to. -/
theorem buildTasks_value (config : request.config = some path) (tree : FileTree) :
    ((buildTasks catalogue request).run.run tree).value =
      (ofUsage request.overrides).bind fun overrides =>
      (routeTasks catalogue overrides request.routes).bind fun routed =>
      (ofFailure (TaskFile.loaded catalogue tree path)).bind fun filed =>
      (ofFailure (overrideEach catalogue overrides filed)).bind fun changed =>
        if (changed ++ routed).isEmpty then
          (ofFailure (Options.ofValue catalogue (.map overrides))).map fun task => [task]
        else .ok (changed ++ routed) := by
  rw [Program.run_value]
  unfold buildTasks
  rw [Program.effect_exceptBind, decided_effect]
  cases ofUsage request.overrides with
  | error stop => rfl
  | ok overrides =>
      dsimp only [Except.bind]
      rw [Program.effect_exceptBind, decided_effect]
      cases routeTasks catalogue overrides request.routes with
      | error stop => rfl
      | ok routed =>
          dsimp only
          rw [Program.effect_exceptBind, config]
          have filed := configTasks_effect catalogue path overrides tree
          generalize (configTasks catalogue (some path) overrides).run.effect tree = configured
            at filed ⊢
          obtain ⟨outcome, left⟩ := configured
          dsimp only at filed
          rw [filed]
          cases ofFailure (TaskFile.loaded catalogue tree path) with
          | error stop => rfl
          | ok found =>
              dsimp only [Except.bind]
              cases ofFailure (overrideEach catalogue overrides found) with
              | error stop => rfl
              | ok changed =>
                  dsimp only
                  split
                  · rw [Program.effect_exceptBind, decided_effect]
                    cases ofFailure (Options.ofValue catalogue (.map overrides)) <;> rfl
                  · rfl

end CommandLine

/-! ### The tasks of a file -/

namespace TaskFile

/-- A file is accepted just if it holds a document in one of three forms and each task entry of it
is accepted; it names one task for each entry, in order. It names no task only if the document is an
empty list. Some tasks in a list, under `tasks`, and a single one on its own come to the same tasks
or to the same failure. And a build with a file that does not hold the empty list runs the tasks of
the file, with what the command line sets, before those of the routes. -/
theorem loaded_names_tasks (catalogue : Catalogue) :
    (∀ tree path tasks, loaded catalogue tree path = .ok tasks ↔
      ∃ document entries, Holds tree path document ∧ Names document entries ∧
        List.Forall₂ (fun entry options => Options.ofValue catalogue entry = .ok options) entries
          tasks) ∧
    (∀ tree path, loaded catalogue tree path = .ok [] → Holds tree path (.list [])) ∧
    (∀ (maps : List Entries) tree path other place, maps ≠ [] →
      Holds tree path (.list (maps.map .map)) →
      (Holds other place (underTasks (maps.map .map)) →
        loaded catalogue other place = loaded catalogue tree path) ∧
      ∀ raw, maps = [raw] → raw.hasText "tasks" = false → Holds other place (.map raw) →
        loaded catalogue other place = loaded catalogue tree path) ∧
    ∀ tree path (request : CommandLine.BuildRequest) tasks, request.config = some path →
      ¬ Holds tree path (.list []) →
      ((CommandLine.buildTasks catalogue request).run.run tree).value = .ok tasks →
      ∃ overrides filed changed routed, request.overrides = .ok overrides ∧
        loaded catalogue tree path = .ok filed ∧
        List.Forall₂ (fun task other => task.override catalogue overrides = .ok other) filed
          changed ∧
        CommandLine.routeTasks catalogue overrides request.routes = .ok routed ∧
        changed ≠ [] ∧ tasks = changed ++ routed := by
  have some {tree : FileTree} {path : Path} (loads : loaded catalogue tree path = .ok []) :
      Holds tree path (.list []) := by
    obtain ⟨document, entries, holds, names, accepted⟩ := loaded_ok_iff.mp loads
    obtain rfl := List.forall₂_nil_right_iff.mp accepted
    rwa [← names.eq_nil]
  refine ⟨fun tree path tasks => loaded_ok_iff, fun tree path => some, ?_, ?_⟩
  · intro maps tree path other place someMaps holds
    have listed : loaded catalogue tree path = Options.ofValues catalogue (maps.map .map) :=
      loaded_of_names holds (.list _)
    constructor
    · intro holdsOther
      rw [listed, loaded_of_names holdsOther (names_underTasks (by simpa using someMaps))]
    · rintro raw rfl absent holdsOther
      have single : Names (.map raw) [.map raw] :=
        .single raw (by simpa [Entries.hasText] using absent)
      rw [listed, loaded_of_names holdsOther single]
      rfl
  · intro tree path request tasks config notEmpty succeeds
    rw [CommandLine.buildTasks_value config] at succeeds
    obtain ⟨overrides, asks, succeeds⟩ := ok_of_bind succeeds
    obtain ⟨routed, routes, succeeds⟩ := ok_of_bind succeeds
    obtain ⟨filed, loads, succeeds⟩ := ok_of_bind succeeds
    obtain ⟨changed, replaces, succeeds⟩ := ok_of_bind succeeds
    replace loads := CommandLine.ok_of_ofFailure loads
    have replaced := CommandLine.overrideEach_ok (CommandLine.ok_of_ofFailure replaces)
    have someChanged : changed ≠ [] := by
      rintro rfl
      obtain rfl := List.forall₂_nil_right_iff.mp replaced
      exact notEmpty (some loads)
    rw [if_neg (by simp [someChanged])] at succeeds
    exact ⟨overrides, filed, changed, routed, CommandLine.ok_of_ofUsage asks, loads, replaced,
      routes, someChanged, (Except.ok.inj succeeds).symm⟩

/-- A build of the tasks of a file, for which the command line sets nothing. -/
def fileOnly : CommandLine.BuildRequest where
  config := some ⟨0, ["tasks.yaml"]⟩
  routes := []
  outputDir := none
  namespacePath := none
  noNamespace := false
  amd := []
  commonjs := false
  node := false
  recursive := false
  wrapScope := none
  verbose := false

theorem holds_oneFile {text : String} (reads : Yaml.readDocument text = .ok document) :
    Holds (oneFile text.toUTF8) ⟨0, ["tasks.yaml"]⟩ document := by
  have decodes : Text.decodeUtf8? text.toUTF8 = some text := by
    simp [Text.decodeUtf8?, String.fromUTF8?, String.fromUTF8, text.isValidUTF8]
  exact ⟨_, text, rfl, decodes, reads⟩

/-- A task that names its input, and one that names its output. -/
def twoTasks : List Entries :=
  [[(.text "inputDir", .text "a")], [(.text "outputFile", .text "b.js")]]

/-- A file in which the two tasks are a list. -/
def listFile : FileTree := oneFile "- inputDir: a\n- outputFile: b.js\n".toUTF8

/-- A file in which the two tasks stand under `tasks`. -/
def underFile : FileTree := oneFile "tasks:\n- inputDir: a\n- outputFile: b.js\n".toUTF8

theorem loaded_names_two_tasks :
    twoTasks ≠ [] ∧ Holds listFile ⟨0, ["tasks.yaml"]⟩ (.list (twoTasks.map .map)) ∧
    Holds underFile ⟨0, ["tasks.yaml"]⟩ (underTasks (twoTasks.map .map)) ∧
    loaded [] underFile ⟨0, ["tasks.yaml"]⟩ = loaded [] listFile ⟨0, ["tasks.yaml"]⟩ ∧
    fileOnly.config = some ⟨0, ["tasks.yaml"]⟩ ∧
    ¬ Holds underFile ⟨0, ["tasks.yaml"]⟩ (.list []) ∧
    ∃ tasks filed, ((CommandLine.buildTasks [] fileOnly).run.run underFile).value = .ok tasks ∧
      tasks.map Options.outputFile = ["compiled-templates.js", "b.js"] ∧
      loaded [] underFile ⟨0, ["tasks.yaml"]⟩ = .ok filed := by
  have listed : Holds listFile ⟨0, ["tasks.yaml"]⟩ (.list (twoTasks.map .map)) :=
    holds_oneFile (ok_of_toOption (by decide +kernel))
  have under : Holds underFile ⟨0, ["tasks.yaml"]⟩ (underTasks (twoTasks.map .map)) :=
    holds_oneFile (ok_of_toOption (by decide +kernel))
  have notEmpty : ¬ Holds underFile ⟨0, ["tasks.yaml"]⟩ (.list []) := by
    intro empty
    have same : Value.list [] = underTasks (twoTasks.map .map) := empty.unique under
    simp [underTasks] at same
  have names := loaded_names_tasks []
  have succeeds : ((CommandLine.buildTasks [] fileOnly).run.run underFile).value.toOption.map
      (List.map Options.outputFile) = some ["compiled-templates.js", "b.js"] := by decide +kernel
  obtain ⟨tasks, built, outputs⟩ := Option.map_eq_some_iff.mp succeeds
  have builds := ok_of_toOption built
  obtain ⟨_, filed, _, _, _, loads, _⟩ := names.2.2.2 _ _ _ _ rfl notEmpty builds
  exact ⟨by decide, listed, under, (names.2.2.1 twoTasks _ _ _ _ (by decide) listed).1 under, rfl,
    notEmpty, tasks, filed, builds, outputs, loads⟩

/-- A file that holds an empty list is accepted, and names no task. A build with it runs the task
with all defaults. -/
theorem loaded_names_no_task :
    Holds (oneFile "[]".toUTF8) ⟨0, ["tasks.yaml"]⟩ (.list []) ∧
    loaded [] (oneFile "[]".toUTF8) ⟨0, ["tasks.yaml"]⟩ = .ok [] ∧
    ((CommandLine.buildTasks [] fileOnly).run.run (oneFile "[]".toUTF8)).value = .ok [{}] := by
  have holds : Holds (oneFile "[]".toUTF8) ⟨0, ["tasks.yaml"]⟩ (.list []) :=
    holds_oneFile (ok_of_toOption (by decide +kernel))
  have loads : loaded [] (oneFile "[]".toUTF8) ⟨0, ["tasks.yaml"]⟩ = .ok [] :=
    loaded_of_names holds (.list [])
  have config : fileOnly.config = some ⟨0, ["tasks.yaml"]⟩ := rfl
  refine ⟨holds, loads, ?_⟩
  rw [CommandLine.buildTasks_value config, loads]
  rfl

end TaskFile

end TemplateBundle
