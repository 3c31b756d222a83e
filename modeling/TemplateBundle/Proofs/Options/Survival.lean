import TemplateBundle.Proofs.Options.Acceptance

/-!
Contract: which options outlast being written back.

Owns: when the value of an option, written back, stands for that value again, when options outlast
that some of them are overridden, that an option which is read as the same afterwards did outlast
it, and that every option does where functions are nothing but functions.

A function that is a value of another kind too is written back as that value. A text that stands
for such a function may be one that is looked up as a reference the next time.
-/

namespace TemplateBundle

variable {catalogue : Catalogue} {options : Options} {field : Field} {inner : Options → Options}
  {name : String} {value stands : Value}

/-! ### Values written back -/

theorem Value.writtenItems_texts (catalogue : Catalogue) (names : List String) :
    writtenItems catalogue (names.map .text) = names.map .text := by
  induction names with
  | nil => rfl
  | cons name rest inductionHypothesis =>
      rw [List.map_cons, writtenItems, inductionHypothesis, written]
      all_goals simp

theorem Value.writtenEntries_flags (catalogue : Catalogue) (entries : List (String × Bool)) :
    writtenEntries catalogue (entries.map fun entry => (.text entry.1, .bool entry.2)) =
      entries.map fun entry => (.text entry.1, .bool entry.2) := by
  induction entries with
  | nil => rfl
  | cons entry rest inductionHypothesis =>
      rw [List.map_cons, writtenEntries, inductionHypothesis]
      rfl

/-- No function of the catalogue is a value of another kind too. -/
def Catalogue.IsPlain (catalogue : Catalogue) : Prop := ∀ function, catalogue.guise function = {}

mutual

theorem Value.written_of_plain (plain : catalogue.IsPlain) :
    (value : Value) → value.written catalogue = value
  | .null | .bool _ | .int _ | .real _ | .text _ | .moment _ => rfl
  | .callable function => by rw [written, plain function]
  | .list items => by rw [written, writtenItems_of_plain plain items]
  | .map entries => by rw [written, writtenEntries_of_plain plain entries]

theorem Value.writtenItems_of_plain (plain : catalogue.IsPlain) :
    (items : List Value) → writtenItems catalogue items = items
  | [] => rfl
  | item :: rest => by
      rw [writtenItems, written_of_plain plain item, writtenItems_of_plain plain rest]

theorem Value.writtenEntries_of_plain (plain : catalogue.IsPlain) :
    (entries : List (Value × Value)) → writtenEntries catalogue entries = entries
  | [] => rfl
  | (key, value) :: rest => by
      rw [writtenEntries, written_of_plain plain value, writtenEntries_of_plain plain rest]

end

mutual

theorem Value.breaks?_of_plain (plain : catalogue.IsPlain) :
    (value : Value) → value.breaks? catalogue = none
  | .null | .bool _ | .int _ | .real _ | .text _ | .moment _ => rfl
  | .callable function => by rw [breaks?, plain function]
  | .list items => by rw [breaks?, breaksIn?_of_plain plain items]
  | .map entries => by rw [breaks?, breaksUnder?_of_plain plain entries]

theorem Value.breaksIn?_of_plain (plain : catalogue.IsPlain) :
    (items : List Value) → breaksIn? catalogue items = none
  | [] => rfl
  | item :: rest => by
      rw [breaksIn?, breaks?_of_plain plain item, breaksIn?_of_plain plain rest, Option.none_or]

theorem Value.breaksUnder?_of_plain (plain : catalogue.IsPlain) :
    (entries : List (Value × Value)) → breaksUnder? catalogue entries = none
  | [] => rfl
  | (key, value) :: rest => by
      rw [breaksUnder?, breaks?_of_plain plain value, breaksUnder?_of_plain plain rest,
        Option.none_or]

end

/-! ### Values that are read in one way only -/

theorem Reading.eq_of_textKeys {found : List (String × Value)}
    (reads : textKeys .ok value = .ok found) :
    value = .map (found.map fun entry => (.text entry.1, entry.2)) := by
  cases value with
  | map entries =>
      rw [textKeys, collect_eq_ok_iff] at reads
      refine congrArg Value.map ?_
      induction entries generalizing found with
      | nil =>
        cases found with
        | nil => rfl
        | cons _ _ => simp at reads
      | cons entry rest inductionHypothesis =>
        obtain ⟨key, item⟩ := entry
        cases found with
        | nil => simp at reads
        | cons first others =>
          rw [List.map_cons, List.map_cons, List.cons.injEq] at reads
          rw [List.map_cons, ← inductionHypothesis reads.2]
          have head := within_ok reads.1
          cases key with
          | text name =>
              obtain rfl := Except.ok.inj head
              rfl
          | _ => simp [text, refuse, within] at head
  | _ => simp [textKeys, refuse] at reads

theorem Reading.eq_of_function? {found : Option Callable} (reads : function? value = .ok found) :
    value = Callable.optionValue found := by
  cases value with
  | null | callable function =>
      obtain rfl := Except.ok.inj reads
      rfl
  | _ => simp [function?, refuse] at reads

theorem Reading.eq_of_namespaceFunction {function : Callable}
    (reads : namespaceRule value = .ok (.computed function)) : value = .callable function := by
  cases value with
  | callable given =>
      obtain rfl := NamespaceRule.computed.inj (Except.ok.inj reads)
      rfl
  | text content =>
      simp only [namespaceRule] at reads
      split at reads <;> simp [broken, refuse] at reads
  | _ =>
      simp only [namespaceRule] at reads
      split at reads <;> simp at reads

theorem Reading.eq_of_dependency {dependency : String}
    (reads : dependencyRule value = .ok (.named dependency)) : value = .text dependency := by
  rcases dependencyRule_ok reads with
    ⟨_, rfl, _, found⟩ | ⟨_, _, found⟩ | ⟨_, _, _, found⟩ | ⟨isOn, found⟩
  · rw [DependencyRule.named.inj found]
  · simp at found
  · simp at found
  · cases isOn <;> simp at found

theorem Reading.eq_of_dependencyFunction {function : Callable}
    (reads : dependencyRule value = .ok (.computed function)) : value = .callable function := by
  rcases dependencyRule_ok reads with
    ⟨_, _, _, found⟩ | ⟨_, rfl, found⟩ | ⟨_, _, _, found⟩ | ⟨isOn, found⟩
  · simp at found
  · rw [DependencyRule.computed.inj found]
  · simp at found
  · cases isOn <;> simp at found

/-! ### Options that outlast it -/

/-- The option outlasts being written back: what it is written as stands for its value. -/
def Field.Survives (catalogue : Catalogue) (options : Options) (field : Field) : Prop :=
  Options.referredAt catalogue field.name ((field.value options).written catalogue) =
    .ok (field.value options)

instance (catalogue : Catalogue) (options : Options) (field : Field) :
    Decidable (field.Survives catalogue options) := by
  unfold Field.Survives
  infer_instance

/-- A function that is a record too is written back as the record. -/
example : ¬ Field.processName.Survives
    [("hooks", .loaded [⟨"PREFIX", .function { written := .value (.map []) }⟩])]
    { processName := some ⟨"hooks", "PREFIX"⟩ } := by decide +kernel

/-- Options outlast that some of them are overridden: each that was given can be written back, and
each of the others outlasts it. -/
structure Options.Outlast (catalogue : Catalogue) (options : Options) (overridden : List Field) :
    Prop where
  writes : options.breaks? catalogue = none
  survives : ∀ field ∈ options.given, field ∉ overridden → field.Survives catalogue options

/-- An option that is read from what it was written back as, and is the same then, was not changed
by that. -/
theorem Field.survives_of_read (options : Options) {any : Options}
    (refers : Options.referredAt catalogue field.name ((field.value options).written catalogue) =
      .ok stands)
    (reads : field.read stands = .ok inner)
    (same : field.value (inner any) = field.value options) :
    field.Survives catalogue options := by
  unfold Survives
  rw [refers, ← same]
  refine congrArg Except.ok ?_
  -- Where no function can stand, nothing is changed; where one can, it is read from itself alone.
  have unchanged (plain : field.name ∉ Options.referenceNames)
      (stays : (field.value options).written catalogue = field.value options) :
      stands = field.value (inner any) := by
    rw [Options.referredAt, if_neg plain, stays] at refers
    rw [same, Except.ok.inj refers]
  cases field with
  | inputDir | outputFile | outputDir | separator | wrapped | commonjs | node | knownHelpersOnly
  | partialsPathRegex | partialRegex | partialsUseNamespace | recursive | runtime =>
      exact unchanged (by decide +kernel) (by simp [Field.value, Value.written])
  | extensions =>
      exact unchanged (by decide +kernel)
        (by simp [Field.value, Value.written, Value.writtenItems_texts])
  | wrapScope =>
      refine unchanged (by decide +kernel) ?_
      unfold Field.value
      cases options.wrapScope <;> simp [Value.written]
  | knownHelpers =>
      refine unchanged (by decide +kernel) ?_
      unfold Field.value
      cases options.knownHelpers with
      | listed names => simp [Value.written, Value.writtenItems_texts]
      | flagged entries => simp [Value.written, Value.writtenEntries_flags]
  | namespaceRule =>
      obtain ⟨rule, readsRule, rfl⟩ := Reading.map_ok reads
      cases rule with
      | off | fixed path =>
          refine unchanged (by decide +kernel) ?_
          rw [← same]
          rfl
      | computed function => exact Reading.eq_of_namespaceFunction readsRule
  | amd =>
      obtain ⟨rule, readsRule, rfl⟩ := Reading.map_ok reads
      rw [← same] at refers
      cases rule with
      | off | standard => exact (Except.ok.inj refers).symm
      | listed names =>
          simp only [Field.value, Value.written, Value.writtenItems_texts] at refers
          exact (Except.ok.inj refers).symm
      | named dependency => exact Reading.eq_of_dependency readsRule
      | computed function => exact Reading.eq_of_dependencyFunction readsRule
  | processContent | processName | processPartialName | processAst =>
      obtain ⟨found, readsFunction, rfl⟩ := Reading.map_ok reads
      exact Reading.eq_of_function? readsFunction
  | compilerOptions =>
      obtain ⟨found, readsMap, rfl⟩ := Reading.map_ok reads
      exact Reading.eq_of_textKeys readsMap

section
variable (plain : catalogue.IsPlain)

include plain

theorem Options.breaks?_of_plain (options : Options) : options.breaks? catalogue = none := by
  rw [breaks?, List.findSome?_eq_none_iff]
  exact fun field _ => Value.breaks?_of_plain plain (field.value options)

theorem Options.standing_of_plain (name : String) (function : Callable) :
    standing catalogue name function = .callable function := by
  simp [standing, plain function]

/-- A text that something stands for is no reference. -/
theorem Options.referred_of_text {content : String}
    (refers : referred catalogue name value = .ok (.text content)) :
    referred catalogue name (.text content) = .ok (.text content) := by
  cases value with
  | text given =>
      by_cases isText : name = "amd" ∧ ¬ given.toList.contains ':'
      · have same := refers
        simp only [referred, if_pos isText, Except.ok.injEq, Value.text.injEq] at same
        rw [same] at refers
        exact refers
      · simp only [referred, if_neg isText] at refers
        cases finds : catalogue.find given with
        | error failure => simp [finds, Except.map] at refers
        | ok function => simp [finds, Except.map, standing_of_plain plain] at refers
  | _ => simp [referred] at refers

/-- What an option is written back as stands for itself: a function is no reference any more, and
a dependency that is a text is none. -/
theorem Field.referredAt_value (member : name ∈ field.spellings)
    (refers : Options.referredAt catalogue name value = .ok stands)
    (reads : field.read stands = .ok inner) (options : Options) :
    Options.referredAt catalogue field.name (field.value (inner options)) =
      .ok (field.value (inner options)) := by
  by_cases isReference : field.name ∈ Options.referenceNames
  · have hooks : ∀ field ∈ all, field.name ∈ Options.referenceNames →
        field ∈ [.amd, .processContent, .processName, .processPartialName, .processAst] := by
      decide +kernel
    have isHook := hooks field field.mem_all isReference
    simp only [List.mem_cons, List.not_mem_nil, or_false] at isHook
    rw [Options.referredAt, if_pos isReference]
    rcases isHook with rfl | rfl | rfl | rfl | rfl
    · have isPlain : name = Field.amd.name := by
        simpa [spellings, joinedName, Field.name] using member
      rw [isPlain, Options.referredAt, if_pos isReference] at refers
      obtain ⟨rule, readsRule, rfl⟩ := Reading.map_ok reads
      change Options.referred catalogue "amd" (Field.amd.value { options with amd := rule }) =
        .ok (Field.amd.value { options with amd := rule })
      rcases Reading.dependencyRule_ok readsRule with
        ⟨dependency, rfl, _, rfl⟩ | ⟨function, _, rfl⟩ | ⟨names, _, _, rfl⟩ | ⟨isOn, rfl⟩
      · exact Options.referred_of_text plain refers
      · rfl
      · rfl
      · cases isOn <;> rfl
    all_goals
      obtain ⟨found, _, rfl⟩ := Reading.map_ok reads
      cases found <;> rfl
  · rw [Options.referredAt, if_neg isReference]

end

end TemplateBundle
