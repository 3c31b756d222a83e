import TemplateBundle.Proofs.Options.Acceptance

/-!
Contract: raw options that are not accepted.

Owns: which failures are those of a configuration, the three ways in which raw options can fail
otherwise (a reference to a module by a relative name, a reference on whose way its module breaks
off, and a pattern at which the reading breaks off), and the law that there is no fourth.
-/

namespace TemplateBundle

variable {catalogue : Catalogue} {raw resolved moved : Entries} {value : Value} {failure : Failure}

/-- The failure says that a configuration is wrong. -/
def Failure.IsConfiguration : Failure → Prop
  | .config _ => True
  | .options _ => True
  | _ => False

theorem Failure.not_isConfiguration_ofFile {failure : FileFault → Failure} {fault : FileFault}
    (other : ¬ (failure fault).IsConfiguration) :
    ¬ (Failure.ofFile failure fault).IsConfiguration := by
  unfold Failure.ofFile
  split
  · exact id
  · exact other

/-- The failure of a reading that broke off at the value. -/
def OptionFault.breaks? (fault : OptionFault) : Option Failure :=
  match fault.problem with
  | .brokenOff kind text => some (.mishap kind text)
  | _ => none

/-- Refused options are a failure of the configuration, unless the reading broke off. -/
theorem Failure.ofOptionFaults_cases (faults : List OptionFault) :
    (Failure.ofOptionFaults faults).IsConfiguration ∨
      ∃ fault ∈ faults, fault.breaks? = some (Failure.ofOptionFaults faults) := by
  change ((faults.filterMap OptionFault.breaks?).head?.getD (.options faults)).IsConfiguration ∨
    ∃ fault ∈ faults, fault.breaks? =
      some ((faults.filterMap OptionFault.breaks?).head?.getD (.options faults))
  cases first : (faults.filterMap OptionFault.breaks?).head? with
  | none => exact .inl trivial
  | some failure => exact .inr (List.mem_filterMap.mp (List.mem_of_head? first))

/-! ### Readings that do not break off -/

namespace Reading

variable {α β : Type}

/-- The reading comes to its end. -/
def Ends (reading : Reading α) : Prop := ∀ fault ∈ reading.faults, fault.breaks? = none

theorem ends_ok (value : α) : Ends (.ok value : Reading α) := by simp [Ends, faults]

theorem ends_refuse {problem : OptionProblem}
    (steady : ∀ kind text, problem ≠ .brokenOff kind text) : Ends (refuse problem : Reading α) := by
  intro fault member
  obtain rfl := List.mem_singleton.mp member
  unfold OptionFault.breaks?
  split
  · rename_i kind text same
    exact absurd same (steady kind text)
  · rfl

theorem ends_broken (fault : ConfigFault) : Ends (broken fault : Reading α) :=
  ends_refuse (by simp)

theorem ends_within {step : Locator} {reading : Reading α} (ends : reading.Ends) :
    (within step reading).Ends := by
  cases reading with
  | ok value => exact ends_ok value
  | error found =>
      intro fault member
      obtain ⟨inner, inFound, rfl⟩ := List.mem_map.mp member
      exact ends inner inFound

theorem ends_map {reading : Reading α} {f : α → β} (ends : reading.Ends) :
    Ends (reading.map f) := by
  cases reading with
  | ok value => exact ends_ok _
  | error found => exact ends

theorem mem_faults_of_map {reading : Reading α} {f : α → β} {fault : OptionFault}
    (member : fault ∈ faults (reading.map f)) : fault ∈ reading.faults := by
  cases reading with
  | ok value => exact member
  | error found => exact member

theorem ends_bind {reading : Reading α} {following : α → Reading β} (ends : reading.Ends)
    (goesOn : ∀ value, (following value).Ends) : Ends (reading >>= following) := by
  cases reading with
  | ok value => exact goesOn value
  | error found => exact ends

theorem ends_append {first : Reading α} {second : Reading β} (one : first.Ends)
    (two : second.Ends) : ∀ fault ∈ first.faults ++ second.faults, fault.breaks? = none := by
  intro fault member
  rcases List.mem_append.mp member with inFirst | inSecond
  · exact one fault inFirst
  · exact two fault inSecond

/-- The faults of some readings together are theirs. -/
theorem mem_faults_collect {readings : List (Reading α)} {fault : OptionFault}
    (member : fault ∈ (collect readings).faults) :
    ∃ reading ∈ readings, fault ∈ reading.faults := by
  induction readings with
  | nil => simp [collect, faults] at member
  | cons first rest inductionHypothesis =>
      have later (member : fault ∈ (collect rest).faults) :
          ∃ reading ∈ first :: rest, fault ∈ reading.faults := by
        obtain ⟨reading, inRest, inReading⟩ := inductionHypothesis member
        exact ⟨reading, List.mem_cons_of_mem _ inRest, inReading⟩
      cases first with
      | error found =>
          rcases List.mem_append.mp member with inFirst | inRest
          · exact ⟨_, List.mem_cons_self, inFirst⟩
          · exact later inRest
      | ok value =>
          rw [collect] at member
          cases others : collect rest with
          | ok values => simp [others, Except.map, faults] at member
          | error found =>
              rw [others] at member
              exact later (by rwa [others])

theorem ends_collect {readings : List (Reading α)} (each : ∀ reading ∈ readings, reading.Ends) :
    (collect readings).Ends := by
  intro fault member
  obtain ⟨reading, among, inReading⟩ := mem_faults_collect member
  exact each reading among fault inReading

theorem ends_text (value : Value) : (text value).Ends := by
  cases value with
  | text content => exact ends_ok content
  | _ => exact ends_refuse (by simp)

theorem ends_path (value : Value) : (path value).Ends := by
  cases value with
  | text content => exact ends_ok _
  | _ => exact ends_refuse (by simp)

theorem ends_flagOfWhole (number : Int) : (flagOfWhole number).Ends := by
  unfold flagOfWhole
  split
  · exact ends_ok _
  · split
    · exact ends_ok _
    · split
      · exact ends_refuse (by simp)
      · exact ends_refuse (by simp)

theorem ends_flag (value : Value) : (flag value).Ends := by
  unfold flag
  split
  · exact ends_ok _
  · split
    · exact ends_ok _
    · exact ends_refuse (by simp)
  · exact ends_flagOfWhole _
  · split
    · split
      · exact ends_refuse (by simp)
      · exact ends_flagOfWhole _
    · exact ends_refuse (by simp)
  · exact ends_refuse (by simp)

theorem ends_texts (problem : OptionProblem)
    (steady : ∀ kind text, problem ≠ .brokenOff kind text) (value : Value) :
    (texts problem value).Ends := by
  cases value with
  | list items =>
      refine ends_collect fun reading member => ?_
      obtain ⟨item, _, rfl⟩ := List.mem_map.mp member
      exact ends_within (ends_text item.2)
  | _ => exact ends_refuse steady

theorem ends_textKeys {item : Value → Reading α} (ends : ∀ value, (item value).Ends)
    (value : Value) : (textKeys item value).Ends := by
  cases value with
  | map entries =>
      refine ends_collect fun reading member => ?_
      obtain ⟨entry, _, rfl⟩ := List.mem_map.mp member
      refine ends_within ?_
      split
      · exact ends_ok _
      · exact ends_append (ends_within (ends_text entry.1)) (ends entry.2)
  | _ => exact ends_refuse (by simp)

theorem ends_function? (value : Value) : (function? value).Ends := by
  cases value with
  | null | callable _ => exact ends_ok _
  | _ => exact ends_refuse (by simp)

theorem ends_namespaceRule (value : Value) : (namespaceRule value).Ends := by
  unfold namespaceRule
  split
  · split
    · exact ends_ok _
    · exact ends_broken _
  · exact ends_ok _
  · split
    · exact ends_ok _
    · intro fault member
      simp only [faults, List.mem_cons, List.not_mem_nil, or_false] at member
      rcases member with rfl | rfl | rfl <;> rfl

theorem ends_dependencyRule (value : Value) : (dependencyRule value).Ends := by
  have lists := ends_texts .list (by simp) value
  have flags := ends_flag value
  unfold dependencyRule
  split
  · split
    · exact ends_broken _
    · exact ends_ok _
  · exact ends_ok _
  · split
    · split
      · exact ends_broken _
      · exact ends_ok _
    · exact ends_ok _
    · rename_i listFaults flagFaults listed flagged
      rw [listed] at lists
      rw [flagged] at flags
      have listsEnd : Ends (.error listFaults : Reading Bool) := lists
      intro fault member
      rcases List.mem_append.mp member with front | last
      · rcases List.mem_append.mp front with front | inLists
        · rcases List.mem_append.mp front with inFlags | middle
          · exact ends_within flags fault inFlags
          · obtain rfl := List.mem_singleton.mp middle
            rfl
        · exact ends_within listsEnd fault inLists
      · obtain rfl := List.mem_singleton.mp last
        rfl

theorem ends_knownHelpers (value : Value) : (knownHelpers value).Ends := by
  have lists := ends_texts .list (by simp) value
  have maps := ends_textKeys ends_flag value
  unfold knownHelpers
  split
  · exact ends_ok _
  · exact ends_ok _
  · rename_i listFaults mapFaults listed mapped
    rw [listed] at lists
    rw [mapped] at maps
    have listsEnd : Ends (.error listFaults : Reading Bool) := lists
    have mapsEnd : Ends (.error mapFaults : Reading Bool) := maps
    exact ends_append (ends_within listsEnd) (ends_within mapsEnd)

theorem ends_outputFile (value : Value) : (outputFile value).Ends := by
  refine ends_bind (ends_text value) fun name => ?_
  split
  · exact ends_broken _
  · exact ends_ok _

theorem ends_extensions (value : Value) : (extensions value).Ends := by
  refine ends_bind (ends_texts _ (by simp) value) fun endings => ?_
  split
  · exact ends_broken _
  · split
    · exact ends_broken _
    · exact ends_ok _

theorem ends_runtime (value : Value) : (runtime value).Ends := by
  refine ends_bind (ends_text value) fun name => ?_
  split
  · exact ends_ok _
  · exact ends_broken _

theorem ends_wrapScope (value : Value) : (wrapScope value).Ends := by
  unfold wrapScope
  split
  · exact ends_ok _
  · exact ends_ok _
  · exact ends_refuse (by simp)

/-- A pattern at which the reading breaks off: a text that notes one out of all bounds. -/
def BreaksOff (value : Value) (failure : Failure) : Prop :=
  ∃ source fault kind text, value = .text source ∧ Pattern.ofString source = .error fault ∧
    patternProblem fault = .brokenOff kind text ∧ failure = .mishap kind text

theorem ofString_of_noted {source : String} {fault : Pattern.NotationFault}
    (notes : NotedPattern.ofString source = .error fault) :
    Pattern.ofString source = .error fault := by
  unfold NotedPattern.ofString at notes
  split at notes
  · simp at notes
  · rename_i other refuses
    rw [refuses, Except.error.inj notes]

theorem breaksOff_of_pattern {fault : OptionFault} (member : fault ∈ (pattern value).faults)
    (breaks : fault.breaks? = some failure) : BreaksOff value failure := by
  cases value with
  | text source =>
      cases notes : NotedPattern.ofString source with
      | ok found => simp [pattern, notes, faults] at member
      | error refusal =>
          simp only [pattern, notes] at member
          obtain rfl := List.mem_singleton.mp member
          unfold OptionFault.breaks? at breaks
          split at breaks
          · rename_i kind text same
            exact ⟨source, refusal, kind, text, rfl, ofString_of_noted notes, same,
              (Option.some.inj breaks).symm⟩
          · simp at breaks
  | _ =>
      obtain rfl := List.mem_singleton.mp member
      simp [OptionFault.breaks?] at breaks

end Reading

/-! ### The options -/

namespace Field

/-- The options that are patterns. -/
def patterns : List Field := [.partialsPathRegex, .partialRegex]

/-- Only the reading of a pattern breaks off. -/
theorem breaksOff_of_read {field : Field} {fault : OptionFault}
    (member : fault ∈ (field.read value).faults) (breaks : fault.breaks? = some failure) :
    field ∈ patterns ∧ Reading.BreaksOff value failure := by
  have steady (ends : (field.read value).Ends) :
      field ∈ patterns ∧ Reading.BreaksOff value failure := by
    simp [ends fault member] at breaks
  cases field with
  | inputDir | outputDir => exact steady (Reading.ends_map (Reading.ends_path value))
  | outputFile => exact steady (Reading.ends_map (Reading.ends_outputFile value))
  | namespaceRule => exact steady (Reading.ends_map (Reading.ends_namespaceRule value))
  | separator => exact steady (Reading.ends_map (Reading.ends_text value))
  | amd => exact steady (Reading.ends_map (Reading.ends_dependencyRule value))
  | knownHelpers => exact steady (Reading.ends_map (Reading.ends_knownHelpers value))
  | processContent | processName | processPartialName | processAst =>
      exact steady (Reading.ends_map (Reading.ends_function? value))
  | compilerOptions =>
      exact steady (Reading.ends_map (Reading.ends_textKeys Reading.ends_ok value))
  | extensions => exact steady (Reading.ends_map (Reading.ends_extensions value))
  | runtime => exact steady (Reading.ends_map (Reading.ends_runtime value))
  | wrapScope => exact steady (Reading.ends_map (Reading.ends_wrapScope value))
  | wrapped | commonjs | node | knownHelpersOnly | partialsUseNamespace | recursive =>
      exact steady (Reading.ends_map (Reading.ends_flag value))
  | partialsPathRegex | partialRegex =>
      refine ⟨by simp [patterns], Reading.breaksOff_of_pattern ?_ breaks⟩
      exact Reading.mem_faults_of_map member

theorem breaksOff_of_readFrom {field : Field} {fault : OptionFault}
    (member : fault ∈ (field.readFrom raw).faults) (breaks : fault.breaks? = some failure) :
    field ∈ patterns ∧ ∃ spelling value, field.entry? raw = some (spelling, value) ∧
      Reading.BreaksOff value failure := by
  unfold readFrom at member
  cases enters : field.entry? raw with
  | none => simp [enters, Reading.faults] at member
  | some entry =>
      obtain ⟨spelling, value⟩ := entry
      rw [enters] at member
      have inReading := Reading.mem_faults_of_map member
      cases reads : field.read value with
      | ok change => simp [reads, Reading.within, Reading.faults] at inReading
      | error faults =>
          rw [reads] at inReading
          obtain ⟨inner, inFaults, rfl⟩ := List.mem_map.mp inReading
          have inner : inner ∈ (field.read value).faults := by rwa [reads]
          obtain ⟨isPattern, breaksOff⟩ := breaksOff_of_read inner breaks
          exact ⟨isPattern, spelling, value, rfl, breaksOff⟩

end Field

namespace Options

/-- Raw options without references whose reading breaks off have a pattern at which it does. -/
theorem breaksOff_of_ofEntries {faults : List OptionFault} {fault : OptionFault}
    (fails : ofEntries raw = .error faults) (member : fault ∈ faults)
    (breaks : fault.breaks? = some failure) :
    ∃ field ∈ Field.patterns, ∃ spelling value, field.entry? raw = some (spelling, value) ∧
      Reading.BreaksOff value failure := by
  unfold ofEntries at fails
  dsimp only at fails
  split at fails
  · split at fails
    · obtain rfl := Except.error.inj fails
      obtain rfl := List.mem_singleton.mp member
      simp [OptionFault.breaks?] at breaks
    · simp at fails
  · obtain rfl := Except.error.inj fails
    rcases List.mem_append.mp member with inChanges | inNames
    · obtain ⟨reading, among, inReading⟩ := Reading.mem_faults_collect inChanges
      obtain ⟨field, _, rfl⟩ := List.mem_map.mp among
      obtain ⟨isPattern, found⟩ := Field.breaksOff_of_readFrom inReading breaks
      exact ⟨field, isPattern, found⟩
    · obtain ⟨entry, _, refused⟩ := List.mem_filterMap.mp inNames
      unfold nameFault? at refused
      split at refused
      · split at refused
        · simp at refused
        · obtain rfl := Option.some.inj refused
          simp [OptionFault.breaks?] at breaks
      · obtain rfl := Option.some.inj refused
        simp [OptionFault.breaks?] at breaks

/-! ### References -/

/-- A reference to a module by a relative name, with the failure of looking for the module. -/
def IsRelative (reference : String) (failure : Failure) : Prop :=
  ∃ module member, Text.cutAtFirst? ':' reference = some (module, member) ∧
    module.toList.head? = some '.' ∧
    failure = .mishap .wrongType
      ("the 'package' argument is required to perform a relative import for " ++
        Text.quoted module)

/-- A reference on whose way its module breaks off, and not for want of an attribute, with the
failure that this is. -/
def IsInterrupted (catalogue : Catalogue) (reference : String) (failure : Failure) : Prop :=
  ∃ module name members, Text.cutAtFirst? ':' reference = some (module, name) ∧
    catalogue.load module = .ok members ∧
    ∃ member ∈ members, member.name ∈ Catalogue.ancestry (Text.pieces '.' name) ∧
      ∃ kind text, member.holding = .failing kind text ∧ kind ≠ .missingAttribute ∧
        failure = .mishap kind text

theorem reach_fails {members : List Member} {missing : Failure} {held : Holding}
    {names : List String}
    (fails : Catalogue.reach members missing held names = .error failure) :
    failure = missing ∨ ∃ member ∈ members, member.name ∈ names ∧
      ∃ kind text, member.holding = .failing kind text ∧ kind ≠ .missingAttribute ∧
        failure = .mishap kind text := by
  induction names generalizing held with
  | nil => simp [Catalogue.reach] at fails
  | cons name rest inductionHypothesis =>
      unfold Catalogue.reach at fails
      split at fails
      · exact .inl (Except.error.inj fails).symm
      · exact .inl (Except.error.inj fails).symm
      · rename_i spelling kind text other found
        have same : spelling = name := by simpa using List.find?_some found
        refine .inr ⟨_, List.mem_of_find?_eq_some found, same ▸ List.mem_cons_self, kind, text, rfl,
          ?_, (Except.error.inj fails).symm⟩
        rintro rfl
        exact other rfl
      · rcases inductionHypothesis fails with isMissing | ⟨member, among, inRest, breaks⟩
        · exact .inl isMissing
        · exact .inr ⟨member, among, List.mem_cons_of_mem _ inRest, breaks⟩

theorem find_fails {reference : String} (fails : catalogue.find reference = .error failure) :
    failure.IsConfiguration ∨ IsRelative reference failure ∨
      IsInterrupted catalogue reference failure := by
  unfold Catalogue.find at fails
  cases cut : Text.cutAtFirst? ':' reference with
  | none =>
      simp only [cut, Except.error.injEq] at fails
      exact .inl (fails ▸ trivial)
  | some parts =>
      obtain ⟨module, name⟩ := parts
      simp only [cut] at fails
      split at fails
      · exact .inl (Except.error.inj fails ▸ trivial)
      · cases loads : catalogue.load module with
        | error other =>
            simp only [loads, Except.error.injEq] at fails
            subst fails
            unfold Catalogue.load at loads
            split at loads
            · rename_i isRelative
              exact .inr (.inl ⟨module, name, cut, isRelative, (Except.error.inj loads).symm⟩)
            · split at loads
              · simp at loads
              · exact .inl (Except.error.inj loads ▸ trivial)
              · exact .inl (Except.error.inj loads ▸ trivial)
        | ok members =>
            simp only [loads] at fails
            split at fails
            · rename_i refusal stops
              obtain rfl := Except.error.inj fails
              rcases reach_fails stops with isMissing | interrupted
              · exact .inl (isMissing ▸ trivial)
              · exact .inr (.inr ⟨module, name, members, cut, loads, interrupted⟩)
            · simp at fails
            · exact .inl (Except.error.inj fails ▸ trivial)

/-- References that cannot be replaced have one among them that cannot be found. -/
theorem resolveNames_fails {names : List String} (distinct : names.Nodup)
    (fails : resolveNames catalogue names raw = .error failure) :
    ∃ name ∈ names, ∃ reference, reference? raw name = some reference ∧
      catalogue.find reference = .error failure := by
  induction names generalizing raw with
  | nil => simp [resolveNames] at fails
  | cons first rest inductionHypothesis =>
      obtain ⟨notInRest, distinctRest⟩ := List.nodup_cons.mp distinct
      unfold resolveNames at fails
      cases step : resolveName catalogue raw first with
      | error other =>
          simp only [step, Except.error.injEq] at fails
          subst fails
          unfold resolveName at step
          cases refers : reference? raw first with
          | none => simp [refers] at step
          | some reference =>
              cases finds : catalogue.find reference with
              | ok function => simp [refers, finds, Except.map] at step
              | error refusal =>
                  simp only [refers, finds, Except.map, Except.error.injEq] at step
                  exact ⟨first, by simp, reference, refers, by rw [finds, step]⟩
      | ok changed =>
          rw [step] at fails
          obtain ⟨name, member, reference, refers, finds⟩ :=
            inductionHypothesis distinctRest fails
          have different : name ≠ first := by
            rintro rfl
            exact notInRest member
          refine ⟨name, List.mem_cons_of_mem _ member, reference, ?_, finds⟩
          have same := (resolveName_replaces step).outside name (by simpa using different)
          rwa [reference?_congr same] at refers

theorem moveNamespaceFunctions_fails {names : List String}
    (fails : moveNamespaceFunctions names raw = .error failure) : failure.IsConfiguration := by
  induction names generalizing raw with
  | nil => simp [moveNamespaceFunctions] at fails
  | cons first rest inductionHypothesis =>
      unfold moveNamespaceFunctions at fails
      split at fails
      · exact inductionHypothesis fails
      · split at fails
        · exact Except.error.inj fails ▸ trivial
        · exact inductionHypothesis fails

/-! ### Whole tasks -/

/-- Why raw options fail without being refused: a reference to a module by a relative name, a
reference on whose way its module breaks off, or a pattern at which the reading breaks off. -/
inductive Escapes (catalogue : Catalogue) (raw : Entries) (failure : Failure) : Prop
  | relative (name reference : String) : name ∈ referenceNames →
      reference? raw name = some reference → IsRelative reference failure →
      Escapes catalogue raw failure
  | interrupted (name reference : String) : name ∈ referenceNames →
      reference? raw name = some reference → IsInterrupted catalogue reference failure →
      Escapes catalogue raw failure
  | pattern (field : Field) (name : String) (value : Value) : field ∈ Field.patterns →
      name ∈ field.spellings → raw.getText? name = some value →
      Reading.BreaksOff value failure → Escapes catalogue raw failure

theorem Escapes.not_isConfiguration (escapes : Escapes catalogue raw failure) :
    ¬ failure.IsConfiguration := by
  cases escapes with
  | relative _ _ _ _ isRelative =>
      obtain ⟨_, _, _, _, rfl⟩ := isRelative
      exact id
  | interrupted _ _ _ _ isInterrupted =>
      obtain ⟨_, _, _, _, _, _, _, _, _, _, _, _, rfl⟩ := isInterrupted
      exact id
  | pattern _ _ _ _ _ _ breaksOff =>
      obtain ⟨_, _, _, _, _, _, _, rfl⟩ := breaksOff
      exact id

/-- A pattern is what it was given as, whatever references and functions are replaced. -/
theorem getText?_pattern {field : Field} {name : String} (isPattern : field ∈ Field.patterns)
    (member : name ∈ field.spellings) (replaces : Replaces catalogue referenceNames raw resolved)
    (moves : Moves namespaceFunctionNames resolved moved) :
    moved.getText? name = raw.getText? name := by
  have plain : ∀ field ∈ Field.patterns, field ≠ .namespaceRule ∧
      ∀ name ∈ field.spellings, name ∉ referenceNames := by decide +kernel
  obtain ⟨other, noReference⟩ := plain field isPattern
  rw [moves.outside (notMem_of_other other member), replaces.outside name (noReference name member)]

/-- A value that is not accepted as the options of a task is a fault of the configuration, or
raw options that fail without being refused. -/
theorem ofValue_fails (fails : ofValue catalogue value = .error failure) :
    failure.IsConfiguration ∨ ∃ raw, value = .map raw ∧ Escapes catalogue raw failure := by
  cases value with
  | map raw =>
      cases resolves : resolveReferences catalogue raw with
      | error other =>
          simp only [ofValue, resolves, Except.error.injEq] at fails
          subst fails
          unfold resolveReferences resolveInOrder at resolves
          cases step : resolveNames catalogue referenceNames raw with
          | ok resolved =>
              rw [step] at resolves
              exact .inl (moveNamespaceFunctions_fails resolves)
          | error refusal =>
              simp only [step, Except.error.injEq] at resolves
              subst resolves
              obtain ⟨name, member, reference, refers, finds⟩ :=
                resolveNames_fails nodup_referenceNames step
              rcases find_fails finds with isConfiguration | isRelative | isInterrupted
              · exact .inl isConfiguration
              · exact .inr ⟨raw, rfl, .relative name reference member refers isRelative⟩
              · exact .inr ⟨raw, rfl, .interrupted name reference member refers isInterrupted⟩
      | ok moved =>
          obtain ⟨resolved, replaces, moves⟩ := resolveReferences_ok resolves
          cases reads : ofEntries moved with
          | ok options => simp [ofValue, resolves, reads] at fails
          | error faults =>
              simp only [ofValue, resolves, reads, Except.error.injEq] at fails
              subst fails
              rcases Failure.ofOptionFaults_cases faults with
                isConfiguration | ⟨fault, member, breaks⟩
              · exact .inl isConfiguration
              · obtain ⟨field, isPattern, name, held, enters, breaksOff⟩ :=
                  breaksOff_of_ofEntries reads member breaks
                have isSpelling := Field.mem_spellings_of_entered enters
                have found := (Field.of_entered enters).2
                rw [getText?_pattern isPattern isSpelling replaces moves] at found
                exact .inr ⟨raw, rfl, .pattern field name held isPattern isSpelling found breaksOff⟩
  | _ => exact .inl (Except.error.inj fails ▸ trivial)

theorem ofValues_fails {values : List Value}
    (fails : ofValues catalogue values = .error failure) :
    ∃ value ∈ values, ofValue catalogue value = .error failure := by
  induction values with
  | nil => simp [ofValues] at fails
  | cons first rest inductionHypothesis =>
      unfold ofValues at fails
      cases reads : ofValue catalogue first with
      | error other =>
          simp only [reads, Except.error.injEq] at fails
          exact ⟨first, List.mem_cons_self, fails ▸ reads⟩
      | ok options =>
          cases others : ofValues catalogue rest with
          | ok more => simp [reads, others] at fails
          | error other =>
              simp only [reads, others, Except.error.injEq] at fails
              subst fails
              obtain ⟨value, member, refused⟩ := inductionHypothesis others
              exact ⟨value, List.mem_cons_of_mem _ member, refused⟩

end Options

end TemplateBundle
