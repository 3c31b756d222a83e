import TemplateBundle.Options.Reading

/-!
Contract: what is known of options that were read.

Owns: the induction over the options that are read, and the laws that a fixed namespace which was
read is a path of segments and that a runtime is a name.

Each option is read as a change of the options so far. What holds of the defaults, and is kept by
every change, holds of the options that are read.
-/

namespace TemplateBundle

variable {raw : Entries} {options : Options}

/-- A fixed namespace is a path of segments. -/
def Options.NamespaceSplits (options : Options) : Prop :=
  ∀ path, options.namespaceRule = .fixed path → ∃ target, Namespace.split path = .ok target

/-- What holds of the defaults and is kept by the reading of any option. -/
structure Options.IsKept (holds : Options → Prop) : Prop where
  defaults : holds {}
  read : ∀ {field : Field} {value : Value} {change : Options → Options} {options : Options},
    field.read value = .ok change → holds options → holds (change options)
  given : ∀ {options : Options} (given : List Field), holds options → holds { options with given }

namespace Reading

variable {α β : Type}

theorem map_ok {reading : Reading α} {f : α → β} {result : β}
    (reads : Except.map f reading = .ok result) :
    ∃ value, reading = .ok value ∧ f value = result := by
  cases reading with
  | error faults => simp [Except.map] at reads
  | ok value => exact ⟨value, rfl, Except.ok.inj reads⟩

theorem within_ok {step : Locator} {reading : Reading α} {value : α}
    (reads : within step reading = .ok value) : reading = .ok value := by
  cases reading with
  | error faults => simp [within] at reads
  | ok found => exact reads

theorem collect_ok {readings : List (Reading α)} {values : List α}
    (reads : collect readings = .ok values) :
    ∀ value ∈ values, .ok value ∈ readings := by
  induction readings generalizing values with
  | nil =>
      obtain rfl := Except.ok.inj reads
      simp
  | cons reading rest inductionHypothesis =>
      cases reading with
      | error faults => simp [collect] at reads
      | ok first =>
          obtain ⟨others, readsRest, rfl⟩ := map_ok reads
          intro value member
          rcases List.mem_cons.mp member with rfl | inRest
          · simp
          · exact List.mem_cons_of_mem _ (inductionHypothesis readsRest value inRest)

theorem namespaceRule_splits {value : Value} {path : String}
    (reads : namespaceRule value = .ok (.fixed path)) :
    ∃ target, Namespace.split path = .ok target := by
  unfold namespaceRule at reads
  split at reads
  · rename_i content
    cases splits : Namespace.split (Text.strip content) with
    | error fault => simp [splits, broken, refuse] at reads
    | ok target =>
        simp only [splits, Except.ok.injEq, NamespaceRule.fixed.injEq] at reads
        exact ⟨target, reads ▸ splits⟩
  · simp at reads
  · split at reads <;> simp at reads

theorem runtime_isName {value : Value} {name : String} (reads : runtime value = .ok name) :
    isRuntimeName name = true := by
  unfold runtime at reads
  cases isText : text value with
  | error faults => simp [isText, bind, Except.bind] at reads
  | ok found =>
      by_cases isName : isRuntimeName found = true
      · simp only [isText, bind, Except.bind, if_pos isName, Except.ok.injEq] at reads
        rwa [← reads]
      · simp [isText, bind, Except.bind, isName, broken, refuse] at reads

/-- Only letters, digits, underscores and dollars stand in a runtime's name. -/
theorem not_mem_of_isRuntimeName {name : String} {mark : Char} (isName : isRuntimeName name = true)
    (strange : mark.isAlpha = false ∧ mark ≠ '_' ∧ mark ≠ '$' ∧ Text.isWord mark = false) :
    mark ∉ name.toList := by
  obtain ⟨noLetter, noLine, noDollar, noWord⟩ := strange
  intro member
  unfold isRuntimeName at isName
  split at isName
  · simp at isName
  · rename_i first rest spelled
    rw [spelled, List.mem_cons] at member
    rw [Bool.and_eq_true, List.all_eq_true] at isName
    rcases member with rfl | inRest
    · simp [noLetter, noLine, noDollar] at isName
    · simpa [noWord, noDollar] using isName.2 mark inRest

end Reading

namespace Field

variable {value : Value} {field : Field} {change : Options → Options}

theorem readFrom_keeps {holds : Options → Prop} (kept : Options.IsKept holds)
    (reads : field.readFrom raw = .ok change) (before : holds options) :
    holds (change options) := by
  unfold readFrom at reads
  split at reads
  · obtain rfl := Except.ok.inj reads
    exact before
  · obtain ⟨inner, readsWithin, rfl⟩ := Reading.map_ok reads
    exact kept.given _ (kept.read (Reading.within_ok readsWithin) before)

/-- Only one option changes how namespaces are found. -/
theorem read_namespaceRule (other : field ≠ .namespaceRule) (reads : field.read value = .ok change)
    (options : Options) : (change options).namespaceRule = options.namespaceRule := by
  cases field with
  | namespaceRule => exact absurd rfl other
  | _ =>
      obtain ⟨found, _, rfl⟩ := Reading.map_ok reads
      rfl

theorem read_splits (reads : field.read value = .ok change) (splits : options.NamespaceSplits) :
    (change options).NamespaceSplits := by
  intro path fixed
  by_cases rule : field = .namespaceRule
  · subst rule
    obtain ⟨found, readsRule, rfl⟩ := Reading.map_ok reads
    obtain rfl : found = .fixed path := fixed
    exact Reading.namespaceRule_splits readsRule
  · rw [read_namespaceRule rule reads] at fixed
    exact splits path fixed

/-- Only one option changes the runtime. -/
theorem read_runtime (other : field ≠ .runtime) (reads : field.read value = .ok change)
    (options : Options) : (change options).runtime = options.runtime := by
  cases field with
  | runtime => exact absurd rfl other
  | _ =>
      obtain ⟨found, _, rfl⟩ := Reading.map_ok reads
      rfl

theorem read_runtimeName (reads : field.read value = .ok change)
    (isName : Reading.isRuntimeName options.runtime = true) :
    Reading.isRuntimeName (change options).runtime = true := by
  by_cases isRuntime : field = .runtime
  · subst isRuntime
    obtain ⟨found, readsRuntime, rfl⟩ := Reading.map_ok reads
    exact Reading.runtime_isName readsRuntime
  · rw [read_runtime isRuntime reads]
    exact isName

end Field

namespace Options

variable {holds : Options → Prop}

private theorem foldl_keeps {changes : List (Options → Options)}
    (keeps : ∀ change ∈ changes, ∀ options : Options, holds options → holds (change options))
    (before : holds options) :
    holds (changes.foldl (fun options change => change options) options) := by
  induction changes generalizing options with
  | nil => exact before
  | cons change rest inductionHypothesis =>
      exact inductionHypothesis (fun other member => keeps other (List.mem_cons_of_mem _ member))
        (keeps change (by simp) options before)

theorem ofEntries_keeps (kept : IsKept holds) (reads : ofEntries raw = .ok options) :
    holds options := by
  unfold ofEntries at reads
  dsimp only at reads
  split at reads
  · rename_i changes collected names
    split at reads
    · simp [Reading.broken, Reading.refuse] at reads
    · obtain rfl := Except.ok.inj reads
      refine foldl_keeps ?_ kept.defaults
      intro change member options before
      obtain ⟨field, _, readsField⟩ :=
        List.mem_map.mp (Reading.collect_ok collected change member)
      exact Field.readFrom_keeps kept readsField before
  · simp at reads

theorem ofEntries_splits (reads : ofEntries raw = .ok options) : options.NamespaceSplits := by
  have kept : IsKept NamespaceSplits :=
    { defaults := by
        rintro path fixed
        obtain rfl := NamespaceRule.fixed.inj fixed
        exact ⟨["JST"], rfl⟩
      read := Field.read_splits
      given := fun _ splits => splits }
  exact ofEntries_keeps kept reads

theorem ofEntries_runtimeName (reads : ofEntries raw = .ok options) :
    Reading.isRuntimeName options.runtime = true := by
  have kept : IsKept fun options => Reading.isRuntimeName options.runtime = true :=
    { defaults := by decide +kernel
      read := Field.read_runtimeName
      given := fun _ isName => isName }
  exact ofEntries_keeps kept reads

end Options

end TemplateBundle
