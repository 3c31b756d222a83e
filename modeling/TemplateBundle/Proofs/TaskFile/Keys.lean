import TemplateBundle.Proofs.Options.Overrides
import TemplateBundle.Proofs.TaskFile.Forms

/-!
Contract: the keys of a configuration file.

Owns: what it means that options take what stands under a key, and the law that each key of an
accepted task entry names an option that the task takes, so that an entry with another key is
refused.

Of a mapping with a key `tasks` only that key is looked at. What stands beside it is not taken, and
not refused either.
-/

namespace TemplateBundle

variable {catalogue : Catalogue} {tree other : FileTree} {path place : Path} {document key : Value}
  {entries : List Value} {tasks : List Options} {raw beside : Entries} {options : Options}

namespace Options

/-- The options take what stands under the key: the key is a name of an option, which counts as
given, and has the value that is read from what stands there. -/
def Takes (catalogue : Catalogue) (raw : Entries) (options : Options) (key : Value) : Prop :=
  ∃ (field : Field) (name : String) (value stands : Value) (change : Options → Options),
    key = .text name ∧ name ∈ field.spellings ∧ raw.getText? name = some value ∧
    referredAt catalogue name value = .ok stands ∧ field.read stands = .ok change ∧
    field ∈ options.given ∧ field.value options = field.value (change {})

/-- Accepted options take what stands under each of the keys. -/
theorem takes_of_ofValue (accepted : ofValue catalogue (.map raw) = .ok options)
    (member : key ∈ raw.keys) : Takes catalogue raw options key := by
  obtain ⟨knows, change, reads, rfl, _⟩ := ofValue_ok_iff.mp accepted
  obtain ⟨field, name, isSpelling, rfl⟩ := knows key member
  have present : raw.getText? name ≠ none := by
    rw [Ne, Entries.getText?_eq_none_iff, not_not]
    exact member
  obtain ⟨value, found⟩ := Option.ne_none_iff_exists'.mp present
  obtain ⟨stands, inner, refers, readsInner, taken⟩ := value_of_reads reads found isSpelling
  have given : field ∈ (built change).given :=
    (mem_given_built reads).mpr ⟨name, isSpelling, present⟩
  exact ⟨field, name, value, stands, inner, rfl, isSpelling, found, refers, readsInner, given,
    taken⟩

/-- A value that is accepted is a map, and the options take what stands under each of its keys. -/
theorem takesAll_of_ofValue {value : Value} (accepted : ofValue catalogue value = .ok options) :
    ∃ raw : Entries, value = .map raw ∧ ∀ key ∈ raw.keys, Takes catalogue raw options key := by
  obtain ⟨raw, _, rfl, _⟩ := ofValue_ok accepted
  exact ⟨raw, rfl, fun _ => takes_of_ofValue accepted⟩

theorem ofValue_of_ofValues {values : List Value} {value : Value}
    (accepted : ofValues catalogue values = .ok tasks) (member : value ∈ values) :
    ∃ options ∈ tasks, ofValue catalogue value = .ok options := by
  have each := ofValues_ok_iff.mp accepted
  induction each with
  | nil => simp at member
  | cons first later inductionHypothesis =>
      rcases List.mem_cons.mp member with rfl | inRest
      · exact ⟨_, List.mem_cons_self, first⟩
      · obtain ⟨options, among, reads⟩ :=
          inductionHypothesis (ofValues_ok_iff.mpr later) inRest
        exact ⟨options, List.mem_cons_of_mem _ among, reads⟩

end Options

namespace TaskFile

/-- A mapping with a key `tasks` has no other. -/
def OnlyTasks (raw : Entries) : Prop :=
  raw.hasText "tasks" = true → ∀ key ∈ raw.keys, key = .text "tasks"

theorem takes_of_names (names : Names document entries)
    (accepted : Options.ofValues catalogue entries = .ok tasks) (isMap : document = .map raw)
    (only : OnlyTasks raw) (member : key ∈ raw.keys) :
    key = .text "tasks" ∨ ∃ options ∈ tasks, Options.Takes catalogue raw options key := by
  cases names with
  | list _ => simp at isMap
  | single _ _ =>
      obtain rfl := Value.map.inj isMap
      obtain ⟨options, among, reads⟩ :=
        Options.ofValue_of_ofValues accepted (List.mem_singleton_self _)
      exact .inr ⟨options, among, Options.takes_of_ofValue reads member⟩
  | under _ _ found _ =>
      obtain rfl := Value.map.inj isMap
      exact .inl (only (by simp [Entries.hasText, found]) key member)

theorem loaded_of_unknown (holds : Holds tree path document) (names : Names document entries)
    (member : .map raw ∈ entries) (unknown : ¬ Options.KnowsAll raw) :
    ∃ failure, loaded catalogue tree path = .error failure ∧
      (failure.IsConfiguration ∨
        ∃ one, .map one ∈ entries ∧ Options.Escapes catalogue one failure) := by
  rw [loaded_of_names holds names]
  cases outcome : Options.ofValues catalogue entries with
  | ok tasks =>
      obtain ⟨options, _, reads⟩ := Options.ofValue_of_ofValues outcome member
      exact absurd (Options.ofValue_ok_iff.mp reads).1 unknown
  | error failure =>
      obtain ⟨value, among, refused⟩ := Options.ofValues_fails outcome
      refine ⟨failure, rfl, (Options.ofValue_fails refused).imp_right ?_⟩
      rintro ⟨one, rfl, escapes⟩
      exact ⟨one, among, escapes⟩

/-- Each task of an accepted file takes what stands under each key of its entry. Where no key stands
beside `tasks`, some task takes what stands under each other key of the document. A file with an
entry that has a key which names no option is refused, by a fault of the configuration unless one of
its entries fails without being refused. -/
theorem loaded_takes_options (catalogue : Catalogue) :
    (∀ tree path tasks, loaded catalogue tree path = .ok tasks →
      ∃ document entries, Holds tree path document ∧ Names document entries ∧
        List.Forall₂ (fun entry options => ∃ raw : Entries, entry = .map raw ∧
          ∀ key ∈ raw.keys, Options.Takes catalogue raw options key) entries tasks ∧
        ∀ raw : Entries, document = .map raw → OnlyTasks raw → ∀ key ∈ raw.keys,
          key = .text "tasks" ∨ ∃ options ∈ tasks, Options.Takes catalogue raw options key) ∧
    ∀ tree path document entries raw, Holds tree path document → Names document entries →
      .map raw ∈ entries → ¬ Options.KnowsAll raw →
      ∃ failure, loaded catalogue tree path = .error failure ∧
        (failure.IsConfiguration ∨
          ∃ one, .map one ∈ entries ∧ Options.Escapes catalogue one failure) := by
  constructor
  · intro tree path tasks loads
    obtain ⟨document, entries, holds, names, accepted⟩ := loaded_ok_iff.mp loads
    refine ⟨document, entries, holds, names, accepted.imp fun _ _ => Options.takesAll_of_ofValue,
      fun raw isMap only key member => ?_⟩
    exact takes_of_names names (Options.ofValues_ok_iff.mpr accepted) isMap only member
  · intro tree path document entries raw holds names member unknown
    exact loaded_of_unknown holds names member unknown

/-- A file with one task, which gives two options. -/
def singleFile : FileTree := oneFile "inputDir: a\namd: true\n".toUTF8

/-- What the one task gives. -/
def singleTask : Entries := [(.text "inputDir", .text "a"), (.text "amd", .bool true)]

/-- A file with one task that gives what is no option. -/
def strangeFile : FileTree := oneFile "- inputDirs: a\n".toUTF8

/-- What the one task gives. -/
def strangeTask : Entries := [(.text "inputDirs", .text "a")]

theorem loaded_takes_options_of_tasks :
    (∃ tasks, loaded [] singleFile ⟨0, ["tasks.yaml"]⟩ = .ok tasks ∧
      ∃ options ∈ tasks, Options.Takes [] singleTask options (.text "amd")) ∧
    Holds strangeFile ⟨0, ["tasks.yaml"]⟩ (.list [.map strangeTask]) ∧
    ¬ Options.KnowsAll strangeTask ∧
    ∃ failure, loaded [] strangeFile ⟨0, ["tasks.yaml"]⟩ = .error failure := by
  obtain ⟨taken, refused⟩ := loaded_takes_options []
  have single : Holds singleFile ⟨0, ["tasks.yaml"]⟩ (.map singleTask) :=
    holds_oneFile (ok_of_toOption (by decide +kernel))
  have strange : Holds strangeFile ⟨0, ["tasks.yaml"]⟩ (.list [.map strangeTask]) :=
    holds_oneFile (ok_of_toOption (by decide +kernel))
  have unknown : ¬ Options.KnowsAll strangeTask := by
    intro knows
    obtain ⟨field, name, isSpelling, same⟩ := knows (.text "inputDirs") (by simp [strangeTask])
    obtain rfl := Value.text.inj same
    have never : ∀ field ∈ Field.all, "inputDirs" ∉ field.spellings := by decide +kernel
    exact never field field.mem_all isSpelling
  refine ⟨?_, strange, unknown, ?_⟩
  · have succeeds : (loaded [] singleFile ⟨0, ["tasks.yaml"]⟩).toOption.isSome = true := by
      decide +kernel
    obtain ⟨tasks, found⟩ := Option.isSome_iff_exists.mp succeeds
    have loads := ok_of_toOption found
    obtain ⟨document, _, holds, _, _, takes⟩ := taken _ _ _ loads
    have isMap : document = .map singleTask := holds.unique single
    have only : OnlyTasks singleTask := fun under => absurd under (by decide +kernel)
    refine ⟨tasks, loads, (takes _ isMap only (.text "amd") ?_).resolve_left (by simp)⟩
    simp [singleTask]
  · obtain ⟨failure, fails, _⟩ := refused _ _ _ _ _ strange (.list _) List.mem_cons_self unknown
    exact ⟨failure, fails⟩

/-- Of a mapping with tasks under `tasks`, nothing else is looked at. -/
theorem loaded_beside_tasks {items : List Value} (notEmpty : items ≠ [])
    (under : raw.getText? "tasks" = some (.list items))
    (underToo : beside.getText? "tasks" = some (.list items))
    (holds : Holds tree path (.map raw)) (holdsToo : Holds other place (.map beside)) :
    loaded catalogue tree path = loaded catalogue other place := by
  rw [loaded_of_names holds (.under raw items under notEmpty),
    loaded_of_names holdsToo (.under beside items underToo notEmpty)]

/-- A file with an option beside `tasks`. -/
def besideFile : FileTree := oneFile "outputDir: dist\ntasks:\n- inputDir: a\n".toUTF8

/-- What the document gives. -/
def besideTasks : Entries :=
  [(.text "outputDir", .text "dist"), (.text "tasks", .list [.map [(.text "inputDir", .text "a")]])]

/-- A file with an output directory beside `tasks` is accepted, and no task takes the directory. -/
theorem loaded_drops_option_beside_tasks :
    Holds besideFile ⟨0, ["tasks.yaml"]⟩ (.map besideTasks) ∧
    .text "outputDir" ∈ besideTasks.keys ∧
    ∃ tasks, loaded [] besideFile ⟨0, ["tasks.yaml"]⟩ = .ok tasks ∧
      tasks.map Options.outputDir = [.here] ∧
      ∀ options ∈ tasks, ¬ Options.Takes [] besideTasks options (.text "outputDir") := by
  have holds : Holds besideFile ⟨0, ["tasks.yaml"]⟩ (.map besideTasks) :=
    holds_oneFile (ok_of_toOption (by decide +kernel))
  have succeeds : (loaded [] besideFile ⟨0, ["tasks.yaml"]⟩).toOption.map (List.map fun options =>
      (options.outputDir, options.given)) = some [(.here, [.inputDir])] := by decide +kernel
  obtain ⟨tasks, found, gives⟩ := Option.map_eq_some_iff.mp succeeds
  obtain ⟨options, rfl, same⟩ := List.map_eq_singleton_iff.mp gives
  obtain ⟨outputs, given⟩ := Prod.mk.inj same
  refine ⟨holds, by simp [besideTasks], [options], ok_of_toOption found, by simp [outputs], ?_⟩
  intro another member
  obtain rfl := List.mem_singleton.mp member
  rintro ⟨field, name, value, stands, change, isName, isSpelling, _, _, _, isGiven, _⟩
  obtain rfl := Value.text.inj isName
  have directory : "outputDir" ∈ Field.outputDir.spellings := by decide
  obtain rfl := Field.eq_of_spelling directory isSpelling
  simp [given] at isGiven

end TaskFile

end TemplateBundle
