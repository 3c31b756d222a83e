import TemplateBundle.Proofs.Options.Reference
import TemplateBundle.Proofs.Options.Rereading

/-!
Contract: what it takes for raw options to be accepted.

Owns: the names of each option, what raw options say of one option, and the law that raw options
are accepted just if each of them says something of an option that can be read, each option is
given under one name at most, and the options go together.

The law takes the three passes over raw options (references, functions of the namespace, values)
as one, option by option.
-/

namespace TemplateBundle

variable {catalogue : Catalogue} {raw resolved moved : Entries} {options : Options}
  {field : Field} {change : Options → Options} {name : String} {value : Value}

namespace Field

theorem mem_all (field : Field) : field ∈ all := by
  cases field <;> decide

theorem nodup_all : all.Nodup := by decide

/-- Every name under which an option can be given. -/
def spellings (field : Field) : List String :=
  [field.joinedName, field.name] ++
    if field = .namespaceRule then Options.namespaceFunctionNames else []

theorem name_mem_spellings (field : Field) : field.name ∈ field.spellings := by
  simp [spellings]

/-- A name is one of one option only. -/
theorem eq_of_spelling {first second : Field} (one : name ∈ first.spellings)
    (other : name ∈ second.spellings) : first = second := by
  have apart : ∀ first ∈ all, ∀ second ∈ all, ∀ name ∈ first.spellings,
      name ∈ second.spellings → first = second := by
    decide +kernel
  exact apart first first.mem_all second second.mem_all name one other

theorem eq_of_name {first second : Field} (same : first.name = second.name) : first = second := by
  refine eq_of_spelling first.name_mem_spellings ?_
  rw [same]
  exact second.name_mem_spellings

theorem mem_spellings_namespaceRule :
    name ∈ Field.namespaceRule.spellings ↔
      name ∈ "namespace" :: Options.namespaceFunctionNames := by
  simp [spellings, Field.name, joinedName]

/-- An option under one name is found under it. -/
theorem entry?_eq_some (member : name = field.joinedName ∨ name = field.name)
    (found : raw.getText? name = some value)
    (alone : ∀ other, other = field.joinedName ∨ other = field.name → other ≠ name →
      raw.getText? other = none) : field.entry? raw = some (name, value) := by
  unfold entry?
  by_cases joined : name = field.joinedName
  · rw [← joined, found]
  · obtain rfl := member.resolve_left joined
    rw [alone _ (.inl rfl) (Ne.symm joined), found]
    rfl

theorem entry?_eq_none_iff :
    field.entry? raw = none ↔
      raw.getText? field.joinedName = none ∧ raw.getText? field.name = none := by
  unfold entry?
  cases joined : raw.getText? field.joinedName <;> simp

theorem entry?_namespaceRule (found : raw.getText? "namespace" = some value) :
    Field.namespaceRule.entry? raw = some ("namespace", value) := by
  refine entry?_eq_some (.inl rfl) found ?_
  rintro other (rfl | rfl) different
  · exact absurd rfl different
  · exact absurd rfl different

theorem of_entered (enters : field.entry? raw = some (name, value)) :
    (name = field.joinedName ∨ name = field.name) ∧ raw.getText? name = some value := by
  unfold entry? at enters
  cases joined : raw.getText? field.joinedName with
  | some held =>
      rw [joined] at enters
      obtain ⟨rfl, rfl⟩ := Prod.mk.inj (Option.some.inj enters)
      exact ⟨.inl rfl, joined⟩
  | none =>
      rw [joined] at enters
      obtain ⟨held, found, same⟩ := Option.map_eq_some_iff.mp enters
      obtain ⟨rfl, rfl⟩ := Prod.mk.inj same
      exact ⟨.inr rfl, found⟩

/-- A change of the options that notes for which option it is. -/
def marking (field : Field) (change : Options → Options) : Options → Options :=
  fun options => { change options with given := (change options).given ++ [field] }

theorem readFrom_ok_iff :
    field.readFrom raw = .ok change ↔
      (field.entry? raw = none ∧ change = id) ∨
      ∃ spelling value inner, field.entry? raw = some (spelling, value) ∧
        field.read value = .ok inner ∧ change = field.marking inner := by
  unfold readFrom
  cases enters : field.entry? raw with
  | none => simp [eq_comm]
  | some entry =>
      obtain ⟨spelling, value⟩ := entry
      dsimp only
      cases reads : field.read value with
      | error faults => simp [Reading.within, Except.map, reads]
      | ok inner =>
          simp only [Reading.within, Except.map, Except.ok.injEq, reduceCtorEq, false_and,
            Option.some.injEq, Prod.mk.injEq, false_or]
          constructor
          · rintro rfl
            exact ⟨spelling, value, inner, ⟨rfl, rfl⟩, reads, rfl⟩
          · rintro ⟨_, _, other, ⟨rfl, rfl⟩, readsOther, rfl⟩
            obtain rfl := Except.ok.inj (reads.symm.trans readsOther)
            rfl

end Field

/-! ### Values that are read -/

namespace Reading

variable {α : Type}

theorem collect_eq_ok_iff {readings : List (Reading α)} {values : List α} :
    collect readings = .ok values ↔ readings = values.map .ok := by
  constructor
  · intro collects
    induction readings generalizing values with
    | nil =>
        obtain rfl := Except.ok.inj collects
        rfl
    | cons reading rest inductionHypothesis =>
        cases reading with
        | error faults => simp [collect] at collects
        | ok first =>
            obtain ⟨others, collectsRest, rfl⟩ := map_ok collects
            rw [List.map_cons, ← inductionHypothesis collectsRest]
  · rintro rfl
    exact collect_map_ok values

end Reading

namespace Options

/-- The options that result from a change for each option. -/
def built (change : Field → Options → Options) : Options :=
  Field.all.foldl (fun options field => change field options) {}

/-- The options go together: partials that use a namespace have one. -/
def IsCoherent (options : Options) : Prop :=
  options.partialsUseNamespace = true → options.usesNamespace = true

/-- Each key is the name under which some option is found. -/
def FindsAll (raw : Entries) : Prop :=
  ∀ key ∈ raw.keys, ∃ (field : Field) (spelling : String) (value : Value),
    field.entry? raw = some (spelling, value) ∧ key = .text spelling

theorem nameFaults_eq_nil_iff :
    (raw.filterMap fun entry => nameFault? (usedNames raw) entry.1) = [] ↔ FindsAll raw := by
  have used (spelling : String) : spelling ∈ usedNames raw ↔
      ∃ (field : Field) (value : Value), field.entry? raw = some (spelling, value) := by
    unfold usedNames
    simp only [List.mem_filterMap, Option.map_eq_some_iff, Prod.exists, exists_and_right,
      exists_eq_right]
    exact exists_congr fun field => and_iff_right field.mem_all
  have faultless (key : Value) : nameFault? (usedNames raw) key = none ↔
      ∃ (field : Field) (spelling : String) (value : Value),
        field.entry? raw = some (spelling, value) ∧ key = .text spelling := by
    cases key with
    | text spelling =>
        have decided : nameFault? (usedNames raw) (.text spelling) = none ↔
            spelling ∈ usedNames raw := by
          simp [nameFault?]
        rw [decided, used]
        constructor
        · rintro ⟨field, value, enters⟩
          exact ⟨field, spelling, value, enters, rfl⟩
        · rintro ⟨field, _, value, enters, same⟩
          exact ⟨field, value, by rw [enters, Value.text.inj same]⟩
    | _ => simp [nameFault?]
  rw [List.filterMap_eq_nil_iff]
  constructor
  · intro none key member
    obtain ⟨entry, inRaw, rfl⟩ := List.mem_map.mp member
    exact (faultless entry.1).mp (none entry inRaw)
  · intro finds entry member
    exact (faultless entry.1).mpr (finds entry.1 (List.mem_map_of_mem member))

theorem collect_readFrom {change : Field → Options → Options}
    (reads : ∀ field : Field, field.readFrom raw = .ok (change field)) :
    Reading.collect (Field.all.map (Field.readFrom raw)) = .ok (Field.all.map change) := by
  refine Reading.collect_eq_ok_iff.mpr ?_
  rw [List.map_map]
  exact List.map_congr_left fun field _ => reads field

theorem readFrom_of_collect {changes : List (Options → Options)}
    (collects : Reading.collect (Field.all.map (Field.readFrom raw)) = .ok changes) :
    ∃ change : Field → Options → Options,
      (∀ field : Field, field.readFrom raw = .ok (change field)) ∧
        changes = Field.all.map change := by
  have each (field : Field) : ∃ change, field.readFrom raw = .ok change := by
    have member : field.readFrom raw ∈ Field.all.map (Field.readFrom raw) :=
      List.mem_map_of_mem field.mem_all
    rw [Reading.collect_eq_ok_iff.mp collects] at member
    obtain ⟨change, _, same⟩ := List.mem_map.mp member
    exact ⟨change, same.symm⟩
  obtain ⟨change, reads⟩ := Classical.axiomOfChoice each
  exact ⟨change, reads, Except.ok.inj (collects.symm.trans (collect_readFrom reads))⟩

/-- Raw options without references are read if each option is, all names are known, and the
options go together. -/
theorem ofEntries_ok_iff :
    ofEntries raw = .ok options ↔
      ∃ change : Field → Options → Options,
        (∀ field : Field, field.readFrom raw = .ok (change field)) ∧
        FindsAll raw ∧ options = built change ∧ options.IsCoherent := by
  have folds (change : Field → Options → Options) :
      (Field.all.map change).foldl (fun options change => change options) {} = built change :=
    List.foldl_map
  constructor
  · intro accepted
    unfold ofEntries at accepted
    dsimp only at accepted
    split at accepted
    · rename_i changes collects names
      obtain ⟨change, reads, rfl⟩ := readFrom_of_collect collects
      rw [folds] at accepted
      by_cases clash : (built change).partialsUseNamespace && !(built change).usesNamespace
      · simp [clash, Reading.broken, Reading.refuse] at accepted
      · rw [if_neg clash] at accepted
        obtain rfl := Except.ok.inj accepted
        refine ⟨change, reads, nameFaults_eq_nil_iff.mp names, rfl, fun uses => ?_⟩
        simpa [uses] using clash
    · simp at accepted
  · rintro ⟨change, reads, finds, rfl, coherent⟩
    unfold ofEntries
    simp only [collect_readFrom reads, nameFaults_eq_nil_iff.mpr finds, folds]
    rw [if_neg]
    intro clash
    rw [Bool.and_eq_true, Bool.not_eq_true'] at clash
    rw [coherent clash.1] at clash
    simp at clash

end Options

/-! ### References and values together -/

/-- What raw options say of one option: nothing, or under one of its names alone something whose
function is there and which can be read. -/
inductive Field.Reads (catalogue : Catalogue) (raw : Entries) (field : Field) :
    (Options → Options) → Prop
  | absent : (∀ name ∈ field.spellings, raw.getText? name = none) →
      Reads catalogue raw field id
  | given (name : String) (value stands : Value) (change : Options → Options) :
      name ∈ field.spellings → raw.getText? name = some value →
      (∀ other ∈ field.spellings, other ≠ name → raw.getText? other = none) →
      Options.referredAt catalogue name value = .ok stands → field.read stands = .ok change →
      Reads catalogue raw field (field.marking change)

/-- Each key is the name of an option. -/
def Options.KnowsAll (raw : Entries) : Prop :=
  ∀ key ∈ raw.keys, ∃ field : Field, ∃ name ∈ field.spellings, key = .text name

namespace Options

theorem notMem_of_other (other : field ≠ .namespaceRule) (member : name ∈ field.spellings) :
    name ∉ "namespace" :: namespaceFunctionNames :=
  fun inUse => other (Field.eq_of_spelling member (Field.mem_spellings_namespaceRule.mpr inUse))

end Options

namespace Field

open Options (Replaces Moves referenceNames namespaceFunctionNames FindsAll KnowsAll getText?_moved)

theorem mem_spellings_other (other : field ≠ .namespaceRule) :
    name ∈ field.spellings ↔ name = field.joinedName ∨ name = field.name := by
  simp [spellings, other]

theorem mem_spellings_of_entered (enters : field.entry? raw = some (name, value)) :
    name ∈ field.spellings := by
  rcases (of_entered enters).1 with rfl | rfl <;> simp [spellings]

/-- Two names of one option would both have to be the one under which it is found. -/
theorem absent_of_findsAll {spelling other : String} (finds : FindsAll raw)
    (enters : field.entry? raw = some (spelling, value)) (among : other ∈ field.spellings)
    (different : other ≠ spelling) : raw.getText? other = none := by
  cases found : raw.getText? other with
  | none => rfl
  | some held =>
      obtain ⟨first, place, stands, entersFirst, same⟩ :=
        finds _ (Entries.mem_keys_of_getText? found)
      obtain rfl := Value.text.inj same
      obtain rfl := eq_of_spelling (mem_spellings_of_entered entersFirst) among
      have samePlace := congrArg Prod.fst (Option.some.inj (entersFirst.symm.trans enters))
      exact absurd samePlace different

variable (replaces : Replaces catalogue referenceNames raw resolved)
  (moves : Moves namespaceFunctionNames resolved moved)

include replaces

/-- What is not moved is read where it was given. -/
private theorem reads_of_unmoved (finds : FindsAll moved)
    (reads : field.readFrom moved = .ok change)
    (same : ∀ other ∈ field.spellings, moved.getText? other = resolved.getText? other)
    (others : ∀ other ∈ field.spellings, other = field.joinedName ∨ other = field.name ∨
      moved.getText? other = none) : field.Reads catalogue raw change := by
  have absent (other : String) (among : other ∈ field.spellings)
      (nothing : moved.getText? other = none) : raw.getText? other = none := by
    rw [same other among] at nothing
    exact replaces.absent.mp nothing
  rcases readFrom_ok_iff.mp reads with
    ⟨none, rfl⟩ | ⟨spelling, stands, inner, enters, readsInner, rfl⟩
  · obtain ⟨joined, plain⟩ := entry?_eq_none_iff.mp none
    refine .absent fun other among => absent other among ?_
    rcases others other among with rfl | rfl | nothing
    · exact joined
    · exact plain
    · exact nothing
  · have isSpelling := mem_spellings_of_entered enters
    have stood := (of_entered enters).2
    rw [same spelling isSpelling] at stood
    obtain ⟨value, found, refers⟩ := replaces.of_found stood
    exact .given spelling value stands inner isSpelling found
      (fun other among different =>
        absent other among (absent_of_findsAll finds enters among different))
      refers readsInner

include moves

theorem absent_after (absent : ∀ name ∈ field.spellings, raw.getText? name = none) :
    ∀ name ∈ field.spellings, moved.getText? name = none := by
  intro name member
  by_cases isNamespace : field = .namespaceRule
  · subst isNamespace
    cases moves with
    | none _ => exact replaces.absent.mpr (absent name member)
    | one place value inUse held _ =>
        have never := absent place
          (mem_spellings_namespaceRule.mpr (List.mem_cons_of_mem _ inUse))
        simp [replaces.absent.mpr never] at held
  · rw [moves.outside (Options.notMem_of_other isNamespace member)]
    exact replaces.absent.mpr (absent name member)

/-- What is given under one name is found after the replacements, and under one name. -/
theorem found_after {stands : Value} (member : name ∈ field.spellings)
    (found : raw.getText? name = some value)
    (alone : ∀ other ∈ field.spellings, other ≠ name → raw.getText? other = none)
    (refers : Options.referredAt catalogue name value = .ok stands) :
    ∃ spelling, field.entry? moved = some (spelling, stands) ∧
      ∀ other ∈ field.spellings, other ≠ spelling → moved.getText? other = none := by
  have stood : resolved.getText? name = some stands := by
    obtain ⟨other, refersOther, same⟩ := replaces.found found
    obtain rfl := Except.ok.inj (refers.symm.trans refersOther)
    exact same
  by_cases isNamespace : field = .namespaceRule
  · subst isNamespace
    have isSpelling (other : String) := @mem_spellings_namespaceRule other
    cases moves with
    | none unused =>
        have plain : name = "namespace" := by
          refine (List.mem_cons.mp ((isSpelling name).mp member)).resolve_right fun inUse => ?_
          simp [unused name inUse] at stood
        subst plain
        have nothing (other : String) (among : other ∈ namespaceRule.spellings)
            (different : other ≠ "namespace") : resolved.getText? other = none :=
          replaces.absent.mpr (alone other among different)
        exact ⟨"namespace", entry?_namespaceRule stood, nothing⟩
    | one place held inUse holds others =>
        have same : place = name := by
          by_cases same : place = name
          · exact same
          · have never := alone place ((isSpelling place).mpr (List.mem_cons_of_mem _ inUse)) same
            simp [replaces.absent.mpr never] at holds
        subst same
        obtain rfl := Option.some.inj (holds.symm.trans stood)
        refine ⟨"namespace", entry?_namespaceRule (by rw [getText?_moved, if_pos rfl]),
          fun other among different => ?_⟩
        rw [getText?_moved, if_neg different]
        by_cases itself : other = place
        · rw [if_pos itself]
        · rw [if_neg itself]
          exact others other ((isSpelling other).mp among) itself
  · have unmoved (other : String) (among : other ∈ field.spellings) :
        moved.getText? other = resolved.getText? other :=
      moves.outside (Options.notMem_of_other isNamespace among)
    have nothing (other : String) (among : other ∈ field.spellings) (different : other ≠ name) :
        moved.getText? other = none := by
      rw [unmoved other among]
      exact replaces.absent.mpr (alone other among different)
    refine ⟨name, entry?_eq_some ((mem_spellings_other isNamespace).mp member)
      ((unmoved name member).trans stood) ?_, nothing⟩
    exact fun other isName different =>
      nothing other ((mem_spellings_other isNamespace).mpr isName) different

theorem readFrom_of_reads (reads : field.Reads catalogue raw change) :
    field.readFrom moved = .ok change := by
  rw [readFrom_ok_iff]
  cases reads with
  | absent absent =>
      have nothing := absent_after replaces moves absent
      exact .inl ⟨entry?_eq_none_iff.mpr ⟨nothing _ (by simp [spellings]),
        nothing _ field.name_mem_spellings⟩, rfl⟩
  | given name value stands inner member found alone refers readsInner =>
      obtain ⟨spelling, enters, _⟩ := found_after replaces moves member found alone refers
      exact .inr ⟨spelling, stands, inner, enters, readsInner, rfl⟩

/-- Where each option is given under one name at most, all that is left has the name under which
it is found. -/
theorem findsAll_of_reads (knows : KnowsAll raw)
    (reads : ∀ field : Field, ∃ change, field.Reads catalogue raw change) : FindsAll moved := by
  have known : ∀ key ∈ moved.keys, ∃ field : Field, ∃ name ∈ field.spellings, key = .text name := by
    intro key member
    cases moves with
    | none _ => exact knows key ((replaces.keys key).mp member)
    | one place value _ _ _ =>
        rcases Entries.mem_keys_insertText.mp member with rfl | kept
        · exact ⟨.namespaceRule, "namespace", by simp [spellings, Field.name], rfl⟩
        · exact knows key ((replaces.keys key).mp (Entries.mem_keys_eraseText.mp kept).2)
  intro key member
  obtain ⟨field, name, isSpelling, rfl⟩ := known key member
  have present : moved.getText? name ≠ none := by
    rw [Ne, Entries.getText?_eq_none_iff, not_not]
    exact member
  obtain ⟨change, readsField⟩ := reads field
  cases readsField with
  | absent absent => exact absurd (absent_after replaces moves absent name isSpelling) present
  | given given value stands inner inSpellings found alone refers _ =>
      obtain ⟨spelling, enters, nothing⟩ :=
        found_after replaces moves inSpellings found alone refers
      refine ⟨field, spelling, stands, enters, ?_⟩
      by_cases same : name = spelling
      · rw [same]
      · exact absurd (nothing name isSpelling same) present

/-- What is read after the replacements was said of the option before them. -/
theorem reads_of_readFrom (finds : FindsAll moved) (reads : field.readFrom moved = .ok change) :
    field.Reads catalogue raw change := by
  by_cases isNamespace : field = .namespaceRule
  · subst isNamespace
    have isSpelling (other : String) := @mem_spellings_namespaceRule other
    cases moves with
    | none unused =>
        refine reads_of_unmoved replaces finds reads (fun _ _ => rfl) fun other among => ?_
        rcases List.mem_cons.mp ((isSpelling other).mp among) with rfl | inUse
        · exact .inl rfl
        · exact .inr (.inr (unused other inUse))
    | one place value inUse holds others =>
        have plain : Field.entry? ((resolved.eraseText place).insertText "namespace" value)
            .namespaceRule = some ("namespace", value) :=
          entry?_namespaceRule (by rw [getText?_moved, if_pos rfl])
        obtain ⟨held, found, refers⟩ := replaces.of_found holds
        rcases readFrom_ok_iff.mp reads with
          ⟨none, rfl⟩ | ⟨spelling, stands, inner, enters, readsInner, rfl⟩
        · simp [plain] at none
        · obtain ⟨rfl, rfl⟩ := Prod.mk.inj (Option.some.inj (plain.symm.trans enters))
          exact .given place held value inner
            ((isSpelling place).mpr (List.mem_cons_of_mem _ inUse)) found
            (fun other among different =>
              replaces.absent.mp (others other ((isSpelling other).mp among) different))
            refers readsInner
  · refine reads_of_unmoved replaces finds reads
      (fun other among => moves.outside (Options.notMem_of_other isNamespace among))
      fun other among => ?_
    rcases (mem_spellings_other isNamespace).mp among with isJoined | isPlain
    · exact .inl isJoined
    · exact .inr (.inl isPlain)

end Field

namespace Options

/-- Raw options that say something of each option can have their references replaced. -/
theorem resolvable_of_reads (knows : KnowsAll raw)
    (reads : ∀ field : Field, ∃ change, field.Reads catalogue raw change) :
    Resolvable catalogue raw := by
  -- Whatever is there under a name of an option is what is read of the option.
  have read {name : String} {value : Value} {field : Field} (isSpelling : name ∈ field.spellings)
      (found : raw.getText? name = some value) :
      (∃ stands, referredAt catalogue name value = .ok stands) ∧
        ∀ other ∈ field.spellings, other ≠ name → raw.getText? other = none := by
    obtain ⟨change, readsField⟩ := reads field
    cases readsField with
    | absent absent => simp [absent name isSpelling] at found
    | given given held stands inner _ foundGiven alone refers _ =>
        have same : name = given := by
          by_cases same : name = given
          · exact same
          · simp [alone name isSpelling same] at found
        subst same
        obtain rfl := Option.some.inj (found.symm.trans foundGiven)
        exact ⟨⟨stands, refers⟩, alone⟩
  refine ⟨fun name member value found => ?_, fun one inOne other inOther isSome isSomeOther => ?_⟩
  · obtain ⟨field, spelling, isSpelling, same⟩ := knows _ (Entries.mem_keys_of_getText? found)
    obtain rfl := Value.text.inj same
    obtain ⟨⟨stands, refers⟩, _⟩ := read isSpelling found
    exact ⟨stands, by rwa [referredAt, if_pos member] at refers⟩
  · obtain ⟨value, found⟩ := Option.isSome_iff_exists.mp isSome
    have alone := (read (Field.mem_spellings_namespaceRule.mpr inOne) found).2
    by_contra different
    have isSpelling := Field.mem_spellings_namespaceRule.mpr inOther
    simp [alone other isSpelling (Ne.symm different)] at isSomeOther

theorem knowsAll_of_findsAll (replaces : Replaces catalogue referenceNames raw resolved)
    (moves : Moves namespaceFunctionNames resolved moved) (finds : FindsAll moved) :
    KnowsAll raw := by
  have kept (key : Value) (member : key ∈ moved.keys) :
      ∃ field : Field, ∃ name ∈ field.spellings, key = .text name := by
    obtain ⟨field, spelling, value, enters, same⟩ := finds key member
    exact ⟨field, spelling, Field.mem_spellings_of_entered enters, same⟩
  intro key member
  have stood := (replaces.keys key).mpr member
  cases moves with
  | none _ => exact kept key stood
  | one place value inUse _ _ =>
      by_cases itself : key = .text place
      · exact ⟨.namespaceRule, place,
          Field.mem_spellings_namespaceRule.mpr (List.mem_cons_of_mem _ inUse), itself⟩
      · exact kept key (Entries.mem_keys_insertText.mpr
          (.inr (Entries.mem_keys_eraseText.mpr ⟨itself, stood⟩)))

/-- A value that is accepted is a map, which is read once its references are replaced. -/
theorem ofValue_ok (accepted : ofValue catalogue value = .ok options) :
    ∃ raw moved, value = .map raw ∧ resolveReferences catalogue raw = .ok moved ∧
      ofEntries moved = .ok options := by
  cases value with
  | map raw =>
      cases resolves : resolveReferences catalogue raw with
      | error failure => simp [ofValue, resolves] at accepted
      | ok moved =>
          cases outcome : ofEntries moved with
          | error faults => simp [ofValue, resolves, outcome] at accepted
          | ok found =>
              simp only [ofValue, resolves, outcome, Except.ok.injEq] at accepted
              exact ⟨raw, moved, rfl, resolves, accepted ▸ outcome⟩
  | _ => simp [ofValue] at accepted

/-- Accepted options go together, and a fixed namespace among them is a path of segments. -/
theorem coherent_of_ofValue (accepted : ofValue catalogue value = .ok options) :
    options.IsCoherent ∧ options.NamespaceSplits := by
  obtain ⟨_, moved, _, _, reads⟩ := ofValue_ok accepted
  obtain ⟨_, _, _, _, coherent⟩ := ofEntries_ok_iff.mp reads
  exact ⟨coherent, ofEntries_splits reads⟩

/-- Raw options are accepted if each key is the name of an option, each option is given under one
name at most by something that can be read, and the options go together. -/
theorem ofValue_ok_iff :
    ofValue catalogue (.map raw) = .ok options ↔
      KnowsAll raw ∧ ∃ change : Field → Options → Options,
        (∀ field : Field, field.Reads catalogue raw (change field)) ∧
        options = built change ∧ options.IsCoherent := by
  constructor
  · intro accepted
    obtain ⟨entries, moved, isMap, resolves, readsAll⟩ := ofValue_ok accepted
    obtain rfl := Value.map.inj isMap
    obtain ⟨resolved, replaces, moves⟩ := resolveReferences_ok resolves
    obtain ⟨change, reads, finds, same, coherent⟩ := ofEntries_ok_iff.mp readsAll
    exact ⟨knowsAll_of_findsAll replaces moves finds, change,
      fun field => field.reads_of_readFrom replaces moves finds (reads field), same, coherent⟩
  · rintro ⟨knows, change, reads, same, coherent⟩
    have readsEach (field : Field) : ∃ change, field.Reads catalogue raw change :=
      ⟨change field, reads field⟩
    obtain ⟨moved, resolves⟩ :=
      resolveReferences_total_iff.mpr (resolvable_of_reads knows readsEach)
    obtain ⟨resolved, replaces, moves⟩ := resolveReferences_ok resolves
    have readsAll : ofEntries moved = .ok options := ofEntries_ok_iff.mpr ⟨change,
      fun field => field.readFrom_of_reads replaces moves (reads field),
      Field.findsAll_of_reads replaces moves knows readsEach, same, coherent⟩
    simp only [ofValue, resolves, readsAll]

end Options

end TemplateBundle
