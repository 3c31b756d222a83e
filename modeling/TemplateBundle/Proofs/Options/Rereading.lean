import TemplateBundle.Options.Overrides
import TemplateBundle.Proofs.Options.Reading
import TemplateBundle.Proofs.Path
import TemplateBundle.Proofs.Text.Blank

/-!
Contract: one option, read from a value and written back.

Owns: the law that an option which was read is written back as a value that is read as the same
change, whatever the value was that it was read from, and the laws by which the change of one
option leaves all others alone.

An option as it was given need not be the value that it is written back as: a path may have
slashes that do not count, a namespace blanks at its ends, a flag may be a word. The law holds of
the options that some value was read as, not of all that there are.
-/

namespace TemplateBundle

namespace Reading

variable {α : Type} {value : Value} {options : Options}

theorem collect_map_ok (values : List α) : collect (values.map .ok) = .ok values := by
  induction values with
  | nil => rfl
  | cons first rest inductionHypothesis =>
      rw [List.map_cons, collect, inductionHypothesis]
      rfl

theorem map_positions (f : Value → α) (items : List Value) :
    (positions items).map (fun item => f item.2) = items.map f := by
  have items_eq : (positions items).map Prod.snd = items :=
    List.map_snd_zip (by simp)
  calc (positions items).map (fun item => f item.2)
      = ((positions items).map Prod.snd).map f := List.map_map.symm
    _ = items.map f := by rw [items_eq]

/-! ### Each kind of value -/

theorem texts_written (problem : OptionProblem) (names : List String) :
    texts problem (.list (names.map .text)) = .ok names := by
  have readEach (item : Nat × Value) (member : item ∈ positions (names.map .text)) :
      within (.position item.1) (text item.2) = text item.2 := by
    obtain ⟨name, _, isText⟩ := List.mem_map.mp (List.of_mem_zip member).2
    rw [← isText]
    rfl
  have all : (names.map Value.text).map text = names.map .ok := by
    rw [List.map_map]
    rfl
  unfold texts
  dsimp only
  rw [List.map_congr_left readEach, map_positions, all, collect_map_ok]

theorem textKeys_written {item : Value → Reading α} (write : α → Value)
    (again : ∀ found, item (write found) = .ok found) (entries : List (String × α)) :
    textKeys item (.map (entries.map fun entry => (.text entry.1, write entry.2))) =
      .ok entries := by
  unfold textKeys
  dsimp only
  rw [List.map_map, ← collect_map_ok entries]
  refine congrArg collect (List.map_congr_left fun entry _ => ?_)
  simp only [Function.comp_apply, again]
  rfl

theorem path_again {found : Path} (reads : path value = .ok found) :
    path (.text found.toString) = .ok found := by
  cases value with
  | text content =>
      obtain rfl := Except.ok.inj reads
      exact congrArg Except.ok (Path.ofString_toString content)
  | _ => simp [path, refuse] at reads

theorem outputFile_again {found : String} (reads : outputFile value = .ok found) :
    outputFile (.text found) = .ok found := by
  cases value with
  | text content =>
      by_cases blank : Text.isBlankText content = true
      · simp [outputFile, text, bind, Except.bind, blank, broken, refuse] at reads
      · have same : content = found := by
          simpa [outputFile, text, bind, Except.bind, blank] using reads
        rw [← same]
        simp [outputFile, text, bind, Except.bind, blank]
  | _ => simp [outputFile, text, bind, Except.bind, refuse] at reads

theorem namespaceRule_again (options : Options)
    (reads : namespaceRule value = .ok options.namespaceRule) :
    namespaceRule (Field.namespaceRule.value options) = .ok options.namespaceRule := by
  cases rule : options.namespaceRule with
  | off =>
      unfold Field.value
      rw [rule]
      rfl
  | computed function =>
      unfold Field.value
      rw [rule]
      rfl
  | fixed path =>
      rw [rule] at reads
      unfold Field.value
      rw [rule]
      cases value with
      | text content =>
          unfold namespaceRule at reads
          dsimp only at reads
          cases splits : Namespace.split (Text.strip content) with
          | error fault => simp [splits, broken, refuse] at reads
          | ok target =>
              obtain rfl : Text.strip content = path := by simpa [splits] using reads
              simp [namespaceRule, splits]
      | callable function => simp [namespaceRule] at reads
      | _ =>
          unfold namespaceRule at reads
          dsimp only at reads
          split at reads <;> simp at reads

/-- What a value can be that is read as a dependency. -/
theorem dependencyRule_ok {found : DependencyRule String}
    (reads : dependencyRule value = .ok found) :
    (∃ name, value = .text name ∧ Text.isBlankText name = false ∧ found = .named name) ∨
    (∃ function, value = .callable function ∧ found = .computed function) ∨
    (∃ names, texts .list value = .ok names ∧ names.any Text.isBlankText = false ∧
      found = .listed names) ∨
    ∃ isOn : Bool, found = if isOn then .standard else .off := by
  unfold dependencyRule at reads
  split at reads
  · rename_i name
    by_cases blank : Text.isBlankText name = true
    · simp [blank, broken, refuse] at reads
    · refine .inl ⟨name, rfl, by simpa using blank, ?_⟩
      simpa [blank, eq_comm] using reads
  · rename_i function
    exact .inr (.inl ⟨function, rfl, (Except.ok.inj reads).symm⟩)
  · split at reads
    · rename_i _ names listed
      by_cases blank : names.any Text.isBlankText = true
      · simp [blank, broken, refuse] at reads
      · rw [if_neg blank] at reads
        exact .inr (.inr (.inl ⟨names, listed, by simpa using blank,
          (Except.ok.inj reads).symm⟩))
    · rename_i isOn _ _
      exact .inr (.inr (.inr ⟨isOn, (Except.ok.inj reads).symm⟩))
    · simp at reads

theorem dependencyRule_again (options : Options)
    (reads : dependencyRule value = .ok options.amd) :
    dependencyRule (Field.amd.value options) = .ok options.amd := by
  unfold Field.value
  rcases dependencyRule_ok reads with
    ⟨name, _, filled, found⟩ | ⟨function, _, found⟩ | ⟨names, _, filled, found⟩ | ⟨isOn, found⟩
  · rw [found]
    simp [dependencyRule, filled]
  · rw [found]
    rfl
  · rw [found]
    unfold dependencyRule
    simp only [texts_written, filled]
    rfl
  · rw [found]
    cases isOn <;> rfl

theorem knownHelpers_again (options : Options) :
    knownHelpers (Field.knownHelpers.value options) = .ok options.knownHelpers := by
  unfold Field.value
  cases options.knownHelpers with
  | listed names =>
      unfold knownHelpers
      simp only [texts_written]
  | flagged entries =>
      have flags : textKeys flag (.map (entries.map fun entry => (.text entry.1, .bool entry.2))) =
          .ok entries := textKeys_written .bool (fun _ => rfl) entries
      unfold knownHelpers
      dsimp only
      rw [flags]
      rfl

theorem source_of_noted {source : String} {found : NotedPattern}
    (notes : NotedPattern.ofString source = .ok found) : found.source = source := by
  unfold NotedPattern.ofString at notes
  split at notes
  · rw [← Except.ok.inj notes]
  · simp at notes

theorem pattern_again {found : NotedPattern} (reads : pattern value = .ok found) :
    pattern (.text found.source) = .ok found := by
  cases value with
  | text source =>
      cases noted : NotedPattern.ofString source with
      | error fault => simp [pattern, noted, refuse] at reads
      | ok other =>
          obtain rfl : other = found := by simpa [pattern, noted] using reads
          rw [source_of_noted noted]
          exact reads
  | _ => simp [pattern, refuse] at reads

theorem extensions_again {found : List String} (reads : extensions value = .ok found) :
    extensions (.list (found.map .text)) = .ok found := by
  cases listed : texts .tuple value with
  | error faults => simp [extensions, listed, bind, Except.bind] at reads
  | ok endings =>
      have same : extensions value = extensions (.list (endings.map .text)) := by
        simp only [extensions, listed, texts_written]
      obtain rfl : endings = found := by
        simp only [extensions, listed, bind, Except.bind] at reads
        split at reads
        · simp [broken, refuse] at reads
        · split at reads
          · simp [broken, refuse] at reads
          · exact Except.ok.inj reads
      rw [← same, reads]

theorem runtime_again {found : String} (reads : runtime value = .ok found) :
    runtime (.text found) = .ok found := by
  cases value with
  | text content =>
      obtain rfl : content = found := by
        simp only [runtime, text, bind, Except.bind] at reads
        split at reads
        · exact Except.ok.inj reads
        · simp [broken, refuse] at reads
      exact reads
  | _ => simp [runtime, text, bind, Except.bind, refuse] at reads

theorem wrapScope_again (options : Options) :
    wrapScope (Field.wrapScope.value options) = .ok options.wrapScope := by
  unfold Field.value
  cases options.wrapScope <;> rfl

theorem function?_again (found : Option Callable) :
    function? (Callable.optionValue found) = .ok found := by
  cases found <;> rfl

end Reading

/-! ### The options -/

namespace Field

variable {value : Value} {field other : Field} {change : Options → Options}

/-- An option that was read is written back as a value that is read as the same. -/
theorem read_value (reads : field.read value = .ok change) (options : Options) :
    field.read (field.value (change options)) = .ok change := by
  cases field with
  | inputDir =>
      obtain ⟨found, readsPath, rfl⟩ := Reading.map_ok reads
      simp only [read, Field.value, Reading.path_again readsPath]
      rfl
  | outputFile =>
      obtain ⟨found, readsName, rfl⟩ := Reading.map_ok reads
      exact congrArg (Except.map _) (Reading.outputFile_again readsName)
  | outputDir =>
      obtain ⟨found, readsPath, rfl⟩ := Reading.map_ok reads
      simp only [read, Field.value, Reading.path_again readsPath]
      rfl
  | namespaceRule =>
      obtain ⟨found, readsRule, rfl⟩ := Reading.map_ok reads
      exact congrArg (Except.map _) (Reading.namespaceRule_again
        { options with namespaceRule := found } readsRule)
  | amd =>
      obtain ⟨found, readsRule, rfl⟩ := Reading.map_ok reads
      exact congrArg (Except.map _) (Reading.dependencyRule_again
        { options with amd := found } readsRule)
  | knownHelpers =>
      obtain ⟨found, _, rfl⟩ := Reading.map_ok reads
      exact congrArg (Except.map _)
        (Reading.knownHelpers_again { options with knownHelpers := found })
  | partialsPathRegex =>
      obtain ⟨found, readsPattern, rfl⟩ := Reading.map_ok reads
      exact congrArg (Except.map _) (Reading.pattern_again readsPattern)
  | partialRegex =>
      obtain ⟨found, readsPattern, rfl⟩ := Reading.map_ok reads
      exact congrArg (Except.map _) (Reading.pattern_again readsPattern)
  | compilerOptions =>
      obtain ⟨found, _, rfl⟩ := Reading.map_ok reads
      exact congrArg (Except.map _) (Reading.textKeys_written id (fun _ => rfl) found)
  | extensions =>
      obtain ⟨found, readsEndings, rfl⟩ := Reading.map_ok reads
      exact congrArg (Except.map _) (Reading.extensions_again readsEndings)
  | runtime =>
      obtain ⟨found, readsName, rfl⟩ := Reading.map_ok reads
      exact congrArg (Except.map _) (Reading.runtime_again readsName)
  | wrapScope =>
      obtain ⟨found, _, rfl⟩ := Reading.map_ok reads
      exact congrArg (Except.map _) (Reading.wrapScope_again { options with wrapScope := found })
  | processContent | processName | processPartialName | processAst =>
      obtain ⟨found, _, rfl⟩ := Reading.map_ok reads
      exact congrArg (Except.map _) (Reading.function?_again found)
  | separator | wrapped | commonjs | node | knownHelpersOnly | partialsUseNamespace | recursive =>
      obtain ⟨found, _, rfl⟩ := Reading.map_ok reads
      rfl

/-- The value of an option that was read does not depend on the options that it changes. -/
theorem value_of_read (reads : field.read value = .ok change) (first second : Options) :
    field.value (change first) = field.value (change second) := by
  cases field <;>
    obtain ⟨found, _, rfl⟩ := Reading.map_ok reads <;>
    rfl

/-- Reading one option leaves the values of the others as they are. -/
theorem value_of_read_other (reads : field.read value = .ok change) (differs : other ≠ field)
    (options : Options) : other.value (change options) = other.value options := by
  cases field <;>
    obtain ⟨found, _, rfl⟩ := Reading.map_ok reads <;>
    cases other <;>
    first
    | exact absurd rfl differs
    | rfl

theorem given_of_read (reads : field.read value = .ok change) (options : Options) :
    (change options).given = options.given := by
  cases field <;>
    obtain ⟨found, _, rfl⟩ := Reading.map_ok reads <;>
    rfl

/-- Which options were given is no value of an option. -/
theorem value_with_given (options : Options) (fields : List Field) (field : Field) :
    field.value { options with given := fields } = field.value options := by
  cases field <;> rfl

end Field

end TemplateBundle
