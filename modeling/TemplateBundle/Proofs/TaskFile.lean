import TemplateBundle.Proofs.Options.Refusal
import TemplateBundle.Proofs.Task.Account
import TemplateBundle.TaskFile

/-!
Contract: configuration files that name no tasks.

Owns: what comes of loading a file that is there, the three ways in which loading one fails without
a fault of the configuration (bytes that are no text, a text that is a document without a value, and
a task that fails without being refused), and the law that every other failure is such a fault.
-/

namespace TemplateBundle.TaskFile

variable {catalogue : Catalogue} {path : Path} {tree : FileTree} {location : Location}
  {content : ByteArray} {executable : Bool} {document part : Value} {text : String}
  {failure : Failure}

/-- What loading a file comes to. -/
theorem load_outcome (catalogue : Catalogue) (path : Path) (tree : FileTree) :
    ((load catalogue path).run.run tree).value =
      if tree.reaches path then
        match tree.read path with
        | .error fault => .error (unread (.file fault))
        | .ok content =>
            match Text.decodeUtf8? content with
            | none => .error (unread .undecodable)
            | some text => ofText catalogue path text
      else .error (.config (.fileNotFound path)) := by
  rw [Program.run_value]
  change (Work.effect (load catalogue path) tree).1 = _
  unfold load
  rw [Work.effect_bind, Work.effect_lift, Program.effect_perform]
  simp only [FileTree.perform]
  by_cases reached : tree.reaches path = true
  · simp only [reached, ↓reduceIte]
    rw [Work.effect_bind, Work.effect_lift, Task.readText_effect]
    cases tree.read path with
    | error fault => rfl
    | ok content =>
        dsimp only
        cases Text.decodeUtf8? content with
        | none => rfl
        | some text =>
            dsimp only
            cases ofText catalogue path text <;> rfl
  · simp only [reached, Bool.false_eq_true, ↓reduceIte]
    rfl

/-- Loading a file that is there comes to what its bytes say. -/
theorem load_value (leads : tree.findNode path = .ok (location, .file content executable)) :
    ((load catalogue path).run.run tree).value =
      match Text.decodeUtf8? content with
      | none => .error (unread .undecodable)
      | some text => ofText catalogue path text := by
  have reached : tree.reaches path = true := by simp [FileTree.reaches, leads, Except.toBool]
  have bytes : tree.read path = .ok content := by simp [FileTree.read, leads]
  rw [load_outcome, if_pos reached, bytes]

/-! ### The tasks of a document -/

theorem tasksPart_isTasks (tells : tasksPart path document = .ok part) :
    (∃ raw, part = .map raw) ∨ ∃ items, part = .list items := by
  unfold tasksPart at tells
  split at tells
  · simp at tells
  · split at tells
    · exact .inl ⟨_, (Except.ok.inj tells).symm⟩
    · exact .inr ⟨_, (Except.ok.inj tells).symm⟩
    · simp at tells
  · exact .inr ⟨_, (Except.ok.inj tells).symm⟩
  · simp at tells

/-- The values that the part of a document that tells the tasks holds as such. -/
def told : Value → List Value
  | .list items => items
  | part => [part]

/-- A document that names no tasks has not the form of one, or holds one that is not accepted. -/
theorem ofDocument_fails (fails : ofDocument catalogue path document = .error failure) :
    failure.IsConfiguration ∨ ∃ part value, tasksPart path document = .ok part ∧
      value ∈ told part ∧ Options.ofValue catalogue value = .error failure := by
  unfold ofDocument at fails
  cases tells : tasksPart path document with
  | error fault =>
      simp only [tells, Except.mapError, bind, Except.bind, Except.error.injEq] at fails
      exact .inl (fails ▸ trivial)
  | ok part =>
      simp only [tells, Except.mapError, bind, Except.bind] at fails
      rcases tasksPart_isTasks tells with ⟨raw, rfl⟩ | ⟨items, rfl⟩
      · refine .inr ⟨.map raw, .map raw, rfl, List.mem_singleton_self _, ?_⟩
        cases reads : Options.ofValue catalogue (.map raw) with
        | ok options => simp [Options.tasksOfValue, reads, Except.map] at fails
        | error other => simpa [Options.tasksOfValue, reads, Except.map] using fails
      · obtain ⟨value, member, refused⟩ := Options.ofValues_fails fails
        exact .inr ⟨.list items, value, rfl, member, refused⟩

/-! ### The failures of loading -/

/-- Why loading a file fails without a fault of the configuration. -/
inductive Escapes (catalogue : Catalogue) (path : Path) (content : ByteArray) : Failure → Prop
  | undecodable : Text.decodeUtf8? content = none →
      Escapes catalogue path content (unread .undecodable)
  | valueless (text : String) (refusal : Yaml.Refusal) : Text.decodeUtf8? content = some text →
      Yaml.readDocument text = .error refusal → refusal ≠ .malformed →
      Escapes catalogue path content (refused path refusal)
  | task {failure : Failure} (text : String) (document part : Value) (raw : Entries) :
      Text.decodeUtf8? content = some text → Yaml.readDocument text = .ok document →
      tasksPart path document = .ok part → .map raw ∈ told part →
      Options.Escapes catalogue raw failure → Escapes catalogue path content failure

theorem Escapes.not_isConfiguration (escapes : Escapes catalogue path content failure) :
    ¬ failure.IsConfiguration := by
  cases escapes with
  | undecodable _ => exact id
  | valueless _ refusal _ _ other =>
      cases refusal with
      | malformed => exact absurd rfl other
      | _ => exact id
  | task _ _ _ _ _ _ _ _ escapes => exact escapes.not_isConfiguration

theorem load_fails (leads : tree.findNode path = .ok (location, .file content executable))
    (fails : ((load catalogue path).run.run tree).value = .error failure) :
    failure.IsConfiguration ∨ Escapes catalogue path content failure := by
  rw [load_value leads] at fails
  cases decoded : Text.decodeUtf8? content with
  | none =>
      simp only [decoded, Except.error.injEq] at fails
      exact .inr (fails ▸ .undecodable decoded)
  | some text =>
      simp only [decoded] at fails
      unfold ofText at fails
      cases reads : Yaml.readDocument text with
      | error refusal =>
          simp only [reads, Except.mapError, bind, Except.bind, Except.error.injEq] at fails
          subst fails
          by_cases malformed : refusal = .malformed
          · exact .inl (malformed ▸ trivial)
          · exact .inr (.valueless text refusal decoded reads malformed)
      | ok document =>
          simp only [reads, Except.mapError, bind, Except.bind] at fails
          rcases ofDocument_fails fails with isConfiguration | ⟨part, value, tells, member, refused⟩
          · exact .inl isConfiguration
          · rcases Options.ofValue_fails refused with isConfiguration | ⟨raw, rfl, escapes⟩
            · exact .inl isConfiguration
            · exact .inr (.task text document part raw decoded reads tells member escapes)

/-- A value that is not accepted as the options of a task fails by a fault of the configuration, but
for raw options with a reference to a module by a relative name, with one on whose way its module
breaks off, or with a pattern at which the reading breaks off. Loading a file that is there,
whatever its bytes, fails by such a fault, but for bytes that are no text, for a text that is a
document without a value, and for a task of the first kind. -/
theorem failures_of_configuration (catalogue : Catalogue) :
    (∀ value failure, Options.ofValue catalogue value = .error failure →
      (¬ failure.IsConfiguration ↔
        ∃ raw, value = .map raw ∧ Options.Escapes catalogue raw failure)) ∧
    ∀ tree path location content executable failure,
      tree.findNode path = .ok (location, .file content executable) →
      ((load catalogue path).run.run tree).value = .error failure →
      (¬ failure.IsConfiguration ↔ Escapes catalogue path content failure) := by
  constructor
  · intro value failure fails
    constructor
    · exact (Options.ofValue_fails fails).resolve_left
    · rintro ⟨raw, _, escapes⟩
      exact escapes.not_isConfiguration
  · intro tree path location content executable failure leads fails
    exact ⟨(load_fails leads fails).resolve_left, Escapes.not_isConfiguration⟩

/-- A directory with one file. -/
def oneFile (content : ByteArray) : FileTree where
  entries := [(["tasks.yaml"], .file content false)]
  home := []

/-- Raw options that refer to a module by a relative name. -/
def relativeTask : Entries := [(.text "processName", .text ".hooks:name")]

theorem failures_of_configuration_of_tasks :
    Options.Escapes [] relativeTask (.mishap .wrongType
      "the 'package' argument is required to perform a relative import for '.hooks'") ∧
    ¬ Escapes [] ⟨0, ["tasks.yaml"]⟩ "tasks: []".toUTF8
      (.config (.tasksNotList ⟨0, ["tasks.yaml"]⟩)) := by
  obtain ⟨ofOptions, ofFiles⟩ := failures_of_configuration []
  constructor
  · obtain ⟨raw, same, escapes⟩ := (ofOptions (.map relativeTask) _ (by rfl)).mp id
    obtain rfl := Value.map.inj same
    exact escapes
  · have decoded : Text.decodeUtf8? "tasks: []".toUTF8 = some "tasks: []" := by decide +kernel
    have reads : Yaml.readDocument "tasks: []" = .ok (.map [(.text "tasks", .list [])]) :=
      ok_of_toOption (by decide +kernel)
    have leads : (oneFile "tasks: []".toUTF8).findNode ⟨0, ["tasks.yaml"]⟩ =
        .ok (["tasks.yaml"], .file "tasks: []".toUTF8 false) := by rfl
    have fails : ((load [] ⟨0, ["tasks.yaml"]⟩).run.run (oneFile "tasks: []".toUTF8)).value =
        .error (.config (.tasksNotList ⟨0, ["tasks.yaml"]⟩)) := by
      rw [load_value leads, decoded]
      dsimp only [ofText]
      rw [reads]
      rfl
    exact fun escapes => (ofFiles _ _ _ _ _ _ leads fails).mpr escapes trivial

/-- Raw options with a pattern whose count is out of all bounds. -/
def boundlessTask : Entries := [(.text "partialRegex", .text "a\x7b99999999999999999999\x7d")]

/-- A module that breaks off when it is asked for what it has not. -/
def brittleModule : Catalogue :=
  [("native", .loaded [⟨"library", .value⟩,
    ⟨"library.missing", .failing (.file .missing) "cannot open shared object file"⟩])]

/-- Raw options that refer to what such a module has not. -/
def brittleTask : Entries := [(.text "processName", .text "native:library.missing")]

/-- A file of one byte that is no text, a reference to a module by a relative name, one to a module
that breaks off, and a pattern with a count out of all bounds: none of the failures is of the
configuration. -/
theorem failures_beyond_configuration :
    (∃ failure, ((load [] ⟨0, ["tasks.yaml"]⟩).run.run (oneFile ⟨#[0xff]⟩)).value =
      .error failure ∧ ¬ failure.IsConfiguration) ∧
    (∃ failure, Options.ofValue [] (.map relativeTask) = .error failure ∧
      ¬ failure.IsConfiguration) ∧
    (∃ failure, Options.ofValue brittleModule (.map brittleTask) = .error failure ∧
      ¬ failure.IsConfiguration) ∧
    ∃ failure, Options.ofValue [] (.map boundlessTask) = .error failure ∧
      ¬ failure.IsConfiguration := by
  refine ⟨⟨unread .undecodable, by rfl, id⟩, ⟨.mishap .wrongType _, by rfl, id⟩,
    ⟨.mishap (.file .missing) _, by rfl, id⟩, ?_⟩
  exact ⟨.mishap .overflow "a number in a pattern is out of range",
    error_of_mishap? (by decide +kernel), id⟩

end TemplateBundle.TaskFile
