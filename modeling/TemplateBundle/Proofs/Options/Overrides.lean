import TemplateBundle.Proofs.Options.Survival

/-!
Contract: options written back as raw options, and with some of them replaced.

Owns: the law that accepted options, written back, say of an option that outlasts it what the raw
options said, and the law that replacing some of accepted options comes to what comes of the raw
options with these replaced, exactly if they outlast that. Where functions are nothing but
functions, all do.
-/

namespace TemplateBundle

variable {catalogue : Catalogue} {raw other changes : Entries} {options changed : Options}
  {field : Field} {fields : List Field} {change inner : Options → Options} {name : String}
  {value stands : Value}

namespace Field

/-! ### What raw options say of one option -/

theorem Reads.congr (reads : field.Reads catalogue raw change)
    (same : ∀ name ∈ field.spellings, other.getText? name = raw.getText? name) :
    field.Reads catalogue other change := by
  cases reads with
  | absent absent => exact .absent fun name member => (same name member).trans (absent name member)
  | given name value stands inner member found alone refers readsInner =>
      refine .given name value stands inner member ((same name member).trans found) ?_ refers
        readsInner
      exact fun other among different => (same other among).trans (alone other among different)

theorem Reads.unique {first second : Options → Options} (one : field.Reads catalogue raw first)
    (two : field.Reads catalogue raw second) : first = second := by
  cases one with
  | absent absent =>
      cases two with
      | absent _ => rfl
      | given name _ _ _ member found => simp [absent name member] at found
  | given name value stands inner member found alone refers reads =>
      cases two with
      | absent absent => simp [absent name member] at found
      | given place held standsToo innerToo memberToo foundToo _ refersToo readsToo =>
          have same : place = name := by
            by_cases same : place = name
            · exact same
            · simp [alone place memberToo same] at foundToo
          subst same
          obtain rfl := Option.some.inj (found.symm.trans foundToo)
          obtain rfl := Except.ok.inj (refers.symm.trans refersToo)
          obtain rfl := Except.ok.inj (reads.symm.trans readsToo)
          rfl

/-- What raw options say of one option leaves the values of the others as they are. -/
theorem Reads.value_other {another : Field} (reads : field.Reads catalogue raw change)
    (differs : another ≠ field) (options : Options) :
    another.value (change options) = another.value options := by
  cases reads with
  | absent _ => rfl
  | given _ _ _ inner _ _ _ _ readsInner =>
      exact (value_with_given ..).trans (value_of_read_other readsInner differs options)

/-- Something is given for the option, under whatever name. -/
def IsGiven (raw : Entries) (field : Field) : Prop :=
  ∃ name ∈ field.spellings, raw.getText? name ≠ none

theorem Reads.mem_given {another : Field} (reads : field.Reads catalogue raw change)
    (options : Options) :
    another ∈ (change options).given ↔
      another ∈ options.given ∨ (another = field ∧ field.IsGiven raw) := by
  cases reads with
  | absent absent =>
      have notGiven : ¬ field.IsGiven raw := fun ⟨name, member, found⟩ => found (absent name member)
      simp [notGiven]
  | given name value stands inner member found _ _ readsInner =>
      have isGiven : field.IsGiven raw := ⟨name, member, by simp [found]⟩
      have kept : (field.marking inner options).given = options.given ++ [field] :=
        congrArg (· ++ [field]) (given_of_read readsInner options)
      rw [kept]
      simp [isGiven]

end Field

namespace Options

/-! ### The options that are built -/

variable {change : Field → Options → Options}

theorem value_foldl_other (reads : ∀ field : Field, field.Reads catalogue raw (change field))
    (absent : field ∉ fields) (options : Options) :
    field.value (fields.foldl (fun options field => change field options) options) =
      field.value options := by
  induction fields generalizing options with
  | nil => rfl
  | cons first rest inductionHypothesis =>
      rw [List.mem_cons, not_or] at absent
      rw [List.foldl_cons, inductionHypothesis absent.2]
      exact (reads first).value_other absent.1 options

/-- The value of an option is the one that it was read as. -/
theorem value_foldl (reads : ∀ field : Field, field.Reads catalogue raw (change field))
    (readsInner : field.read stands = .ok inner) (same : change field = field.marking inner)
    (distinct : fields.Nodup) (member : field ∈ fields) (options any : Options) :
    field.value (fields.foldl (fun options field => change field options) options) =
      field.value (inner any) := by
  induction fields generalizing options with
  | nil => simp at member
  | cons first rest inductionHypothesis =>
      obtain ⟨notInRest, distinctRest⟩ := List.nodup_cons.mp distinct
      rw [List.foldl_cons]
      rcases List.mem_cons.mp member with rfl | inRest
      · rw [value_foldl_other reads notInRest, same]
        exact (Field.value_with_given ..).trans (Field.value_of_read readsInner options any)
      · exact inductionHypothesis distinctRest inRest _

theorem mem_given_foldl (reads : ∀ field : Field, field.Reads catalogue raw (change field))
    (options : Options) :
    field ∈ (fields.foldl (fun options field => change field options) options).given ↔
      field ∈ options.given ∨ (field ∈ fields ∧ field.IsGiven raw) := by
  induction fields generalizing options with
  | nil => simp
  | cons first rest inductionHypothesis =>
      rw [List.foldl_cons, inductionHypothesis, (reads first).mem_given, List.mem_cons, or_assoc]
      refine or_congr_right ?_
      constructor
      · rintro (⟨rfl, isGiven⟩ | ⟨inRest, isGiven⟩)
        · exact ⟨.inl rfl, isGiven⟩
        · exact ⟨.inr inRest, isGiven⟩
      · rintro ⟨rfl | inRest, isGiven⟩
        · exact .inl ⟨rfl, isGiven⟩
        · exact .inr ⟨inRest, isGiven⟩

theorem mem_given_built (reads : ∀ field : Field, field.Reads catalogue raw (change field)) :
    field ∈ (built change).given ↔ field.IsGiven raw := by
  unfold built
  rw [mem_given_foldl reads]
  simp [field.mem_all]

/-- Of accepted options, one that is given has the value that is read of it. -/
theorem value_of_reads {change : Field → Options → Options}
    (reads : ∀ field : Field, field.Reads catalogue raw (change field))
    (found : raw.getText? name = some value) (member : name ∈ field.spellings) :
    ∃ stands inner, referredAt catalogue name value = .ok stands ∧ field.read stands = .ok inner ∧
      field.value (built change) = field.value (inner {}) := by
  have readsField := reads field
  generalize same : change field = said at readsField
  cases readsField with
  | absent absent => simp [absent name member] at found
  | given place held stands inner _ foundToo alone refers readsInner =>
      have itself : name = place := by
        by_contra differs
        simp [alone name member differs] at found
      subst itself
      obtain rfl := Option.some.inj (found.symm.trans foundToo)
      exact ⟨stands, inner, refers, readsInner,
        value_foldl reads readsInner same Field.nodup_all field.mem_all {} {}⟩

/-! ### Plain names -/

/-- Of an option that is given by its plain name there is nothing under the other names. -/
theorem getText?_other (named : other.HasNames (fields.map Field.name))
    (member : name ∈ field.spellings) (different : name ≠ field.name) :
    other.getText? name = none := by
  rw [Entries.getText?_eq_none_iff, named]
  intro inNames
  simp only [List.map_map, List.mem_map, Function.comp_apply, Value.text.injEq] at inNames
  obtain ⟨another, _, sameName⟩ := inNames
  refine different ?_
  rw [← sameName] at member
  rw [← sameName, Field.eq_of_spelling another.name_mem_spellings member]

theorem knowsAll_of_names (named : other.HasNames (fields.map Field.name)) : KnowsAll other := by
  intro key member
  rw [named] at member
  simp only [List.map_map, List.mem_map, Function.comp_apply] at member
  obtain ⟨field, _, same⟩ := member
  exact ⟨field, field.name, field.name_mem_spellings, same.symm⟩

theorem toEntries_names (catalogue : Catalogue) (options : Options) :
    (options.toEntries catalogue).HasNames (options.given.map Field.name) := by
  simp [Entries.HasNames, Entries.keys, toEntries]

/-! ### Options written back -/

theorem getText?_written (member : field ∈ fields) (value : Field → Value) :
    Entries.getText? (fields.map fun field => (.text field.name, value field)) field.name =
      some (value field) := by
  induction fields with
  | nil => simp at member
  | cons first rest inductionHypothesis =>
      rw [List.map_cons, Entries.getText?_cons]
      by_cases same : first = field
      · rw [if_pos (by rw [same]), same]
      · rw [if_neg (by simpa using mt Field.eq_of_name same)]
        exact inductionHypothesis ((List.mem_cons.mp member).resolve_left (Ne.symm same))

/-- Accepted options, written back, say of an option what the raw options said of it, if it outlasts
that. -/
theorem reads_toEntries (reads : ∀ field : Field, field.Reads catalogue raw (change field))
    (survives : field ∈ (built change).given → field.Survives catalogue (built change)) :
    field.Reads catalogue ((built change).toEntries catalogue) (change field) := by
  have onlyPlain (other : String) (among : other ∈ field.spellings)
      (different : other ≠ field.name) :
      ((built change).toEntries catalogue).getText? other = none :=
    getText?_other (toEntries_names ..) among different
  have readsField := reads field
  generalize same : change field = said at readsField ⊢
  cases readsField with
  | absent absent =>
      have notGiven : field ∉ (built change).given := by
        rw [mem_given_built reads]
        exact fun ⟨name, member, found⟩ => found (absent name member)
      refine .absent fun other among => ?_
      by_cases plain : other = field.name
      · rw [plain, Entries.getText?_eq_none_iff, toEntries_names]
        intro inNames
        simp only [List.map_map, List.mem_map, Function.comp_apply, Value.text.injEq] at inNames
        obtain ⟨another, inGiven, sameName⟩ := inNames
        refine notGiven ?_
        rwa [← Field.eq_of_name sameName]
      · exact onlyPlain other among plain
  | given name value stands inner member found alone refers readsInner =>
      have isGiven : field ∈ (built change).given := by
        rw [mem_given_built reads]
        exact ⟨name, member, by simp [found]⟩
      have written : field.value (built change) = field.value (inner {}) :=
        value_foldl reads readsInner same Field.nodup_all field.mem_all {} {}
      refine .given field.name _ (field.value (built change)) inner field.name_mem_spellings
        (getText?_written isGiven fun field => (field.value (built change)).written catalogue)
        onlyPlain (survives isGiven) ?_
      rw [written]
      exact Field.read_value readsInner {}

/-! ### Some options replaced -/

/-- An option is among those that changes set. -/
def isReplaced (changes : Entries) (key : Value) : Bool :=
  Field.all.any fun field => changes.hasText field.name && field.spellings.any (key = .text ·)

/-- Raw options with some of them replaced: whatever was given for these, under whatever name,
is gone. -/
def replaced (raw changes : Entries) : Entries :=
  raw.filter (fun entry => !isReplaced changes entry.1) ++ changes

theorem isReplaced_text (member : name ∈ field.spellings) :
    isReplaced changes (.text name) = changes.hasText field.name := by
  rw [Bool.eq_iff_iff]
  unfold isReplaced
  simp only [List.any_eq_true, Bool.and_eq_true, decide_eq_true_eq, Value.text.injEq]
  constructor
  · rintro ⟨another, _, isSet, spelling, inSpellings, rfl⟩
    rwa [Field.eq_of_spelling member inSpellings]
  · exact fun isSet => ⟨field, field.mem_all, isSet, name, member, rfl⟩

variable (named : changes.HasNames (fields.map Field.name))

include named

theorem hasText_of_names (field : Field) : changes.hasText field.name = true ↔ field ∈ fields := by
  rw [Entries.hasText, Option.isSome_iff_ne_none, Ne, Entries.getText?_eq_none_iff, not_not, named]
  constructor
  · intro member
    simp only [List.map_map, List.mem_map, Function.comp_apply, Value.text.injEq] at member
    obtain ⟨another, among, same⟩ := member
    rwa [← Field.eq_of_name same]
  · exact fun member => List.mem_map_of_mem (List.mem_map_of_mem member)

/-- Changes say nothing of an option that they do not set, under any of its names. -/
theorem getText?_of_unset (unset : changes.hasText field.name = false)
    (member : name ∈ field.spellings) : changes.getText? name = none := by
  by_cases plain : name = field.name
  · simpa [plain, Entries.hasText] using unset
  · exact getText?_other named member plain

/-- Options that are written back and updated say what the changes say, or else what was written. -/
theorem getText?_updated (distinct : fields.Nodup) (catalogue : Catalogue) (options : Options)
    (name : String) :
    ((options.toEntries catalogue).update changes).getText? name =
      (changes.getText? name).or ((options.toEntries catalogue).getText? name) := by
  have apart : (fields.map Field.name).Nodup :=
    List.Pairwise.map _ (fun _ _ => mt Field.eq_of_name) distinct
  exact Entries.getText?_update named apart (options.toEntries catalogue) name

/-- What raw options with some replaced say of one option: what the changes say of it, if they
do, and else what the raw options said. -/
theorem getText?_replaced (member : name ∈ field.spellings) :
    (replaced raw changes).getText? name =
      if changes.hasText field.name then changes.getText? name else raw.getText? name := by
  unfold replaced
  rw [Entries.getText?_append, Entries.getText?_filter fun key => !isReplaced changes key,
    isReplaced_text member]
  cases isSet : changes.hasText field.name with
  | true => simp
  | false => simp [getText?_of_unset named isSet member]

theorem knowsAll_replaced (knows : KnowsAll raw) : KnowsAll (replaced raw changes) := by
  intro key member
  rw [replaced, Entries.keys_append, List.mem_append] at member
  rcases member with kept | set
  · obtain ⟨entry, inKept, rfl⟩ := List.mem_map.mp kept
    exact knows entry.1 (List.mem_map_of_mem (List.mem_filter.mp inKept).1)
  · exact knowsAll_of_names named key set

theorem knowsAll_update (catalogue : Catalogue) (options : Options) :
    KnowsAll ((options.toEntries catalogue).update changes) := by
  intro key member
  rcases (Entries.mem_keys_update named).mp member with set | given
  · exact knowsAll_of_names named key set
  · exact knowsAll_of_names (toEntries_names catalogue options) key given

/-- The options that result from a change for each option say of an option with some replaced what
the raw options say with these replaced, if it is replaced or outlasts being written back. -/
theorem reads_update_iff (distinct : fields.Nodup)
    (reads : ∀ field : Field, field.Reads catalogue raw (change field))
    (survives : field ∈ (built change).given → changes.hasText field.name = false →
      field.Survives catalogue (built change)) :
    field.Reads catalogue (((built change).toEntries catalogue).update changes) inner ↔
      field.Reads catalogue (replaced raw changes) inner := by
  have updated := getText?_updated named distinct catalogue (built change)
  cases isSet : changes.hasText field.name with
  | true =>
      have same (name : String) (member : name ∈ field.spellings) :
          (((built change).toEntries catalogue).update changes).getText? name =
            (replaced raw changes).getText? name := by
        rw [updated, getText?_replaced named member, if_pos isSet]
        by_cases plain : name = field.name
        · rw [plain, Option.or_of_isSome isSet]
        · rw [getText?_other named member plain,
            getText?_other (toEntries_names ..) member plain]
          rfl
      exact ⟨fun told => told.congr fun name member => (same name member).symm,
        fun told => told.congr same⟩
  | false =>
      have written (name : String) (member : name ∈ field.spellings) :
          (((built change).toEntries catalogue).update changes).getText? name =
            ((built change).toEntries catalogue).getText? name := by
        rw [updated, getText?_of_unset named isSet member, Option.none_or]
      have raws (name : String) (member : name ∈ field.spellings) :
          (replaced raw changes).getText? name = raw.getText? name := by
        rw [getText?_replaced named member, isSet]
        rfl
      have again := reads_toEntries reads fun given => survives given isSet
      constructor
      · intro told
        have back : field.Reads catalogue ((built change).toEntries catalogue) inner :=
          told.congr fun name member => (written name member).symm
        rw [back.unique again]
        exact (reads field).congr raws
      · intro told
        have back : field.Reads catalogue raw inner :=
          told.congr fun name member => (raws name member).symm
        rw [back.unique (reads field)]
        exact again.congr written

omit named in
theorem replaced_nil (raw : Entries) : replaced raw [] = raw := by
  simp [replaced, isReplaced, Entries.hasText, Entries.getText?, Entries.get?]

/-- Options with some of them replaced are what the raw options come to with these replaced, if
they outlast that. -/
theorem override_ok_iff (distinct : fields.Nodup)
    (accepted : ofValue catalogue (.map raw) = .ok options)
    (outlast : options.Outlast catalogue fields) :
    options.override catalogue changes = .ok changed ↔
      ofValue catalogue (.map (replaced raw changes)) = .ok changed := by
  unfold override
  by_cases none : changes = []
  · rw [if_pos none, none, replaced_nil, accepted]
  simp only [if_neg none, outlast.writes]
  obtain ⟨knows, change, reads, rfl, _⟩ := ofValue_ok_iff.mp accepted
  rw [ofValue_ok_iff, ofValue_ok_iff]
  have sides : KnowsAll (((built change).toEntries catalogue).update changes) ↔
      KnowsAll (replaced raw changes) :=
    iff_of_true (knowsAll_update named _ _) (knowsAll_replaced named knows)
  rw [sides]
  refine and_congr_right fun _ => exists_congr fun other => and_congr_left fun _ => ?_
  refine forall_congr' fun field => reads_update_iff named distinct reads fun given unset => ?_
  refine outlast.survives field given fun replaces => ?_
  simp [(hasText_of_names named field).mpr replaces] at unset

/-- If replacing some options comes to what the raw options come to with these replaced, the others
outlast being written back. -/
theorem survives_of_override (distinct : fields.Nodup)
    (accepted : ofValue catalogue (.map raw) = .ok options)
    (anew : ofValue catalogue (.map (replaced raw changes)) = .ok changed)
    (overrides : ofValue catalogue (.map ((options.toEntries catalogue).update changes)) =
      .ok changed) (given : field ∈ options.given) (stays : field ∉ fields) :
    field.Survives catalogue options := by
  obtain ⟨_, change, reads, rfl, _⟩ := ofValue_ok_iff.mp accepted
  obtain ⟨_, changeAnew, readsAnew, rfl, _⟩ := ofValue_ok_iff.mp anew
  obtain ⟨_, changeOver, readsOver, same, _⟩ := ofValue_ok_iff.mp overrides
  have unset : changes.hasText field.name = false := by
    rw [Bool.eq_false_iff, Ne, hasText_of_names named]
    exact stays
  -- With some options replaced, the raw options say of this one what they said before.
  obtain ⟨name, member, present⟩ := (mem_given_built reads).mp given
  obtain ⟨value, found⟩ := Option.ne_none_iff_exists'.mp present
  have foundAnew : (replaced raw changes).getText? name = some value := by
    rw [getText?_replaced named member, unset, ← found]
    rfl
  obtain ⟨stands, inner, refers, readsInner, valued⟩ := value_of_reads reads found member
  obtain ⟨standsAnew, innerAnew, refersAnew, readsInnerAnew, valuedAnew⟩ :=
    value_of_reads readsAnew foundAnew member
  obtain rfl := Except.ok.inj (refers.symm.trans refersAnew)
  obtain rfl := Except.ok.inj (readsInner.symm.trans readsInnerAnew)
  -- What was written back is read as the value that it is then.
  have foundOver : (((built change).toEntries catalogue).update changes).getText? field.name =
      some ((field.value (built change)).written catalogue) := by
    rw [getText?_updated named distinct, getText?_of_unset named unset field.name_mem_spellings,
      Option.none_or]
    exact getText?_written given fun field => (field.value (built change)).written catalogue
  obtain ⟨standsOver, innerOver, refersOver, readsInnerOver, valuedOver⟩ :=
    value_of_reads readsOver foundOver field.name_mem_spellings
  have unchanged : field.value (innerOver {}) = field.value (built change) := by
    rw [valued, ← valuedAnew, same, valuedOver]
  exact Field.survives_of_read (built change) refersOver readsInnerOver unchanged

/-- Where raw options with some replaced come to something, replacing these options comes to the
same exactly if the options outlast that. -/
theorem override_ok_iff_outlast (distinct : fields.Nodup)
    (accepted : ofValue catalogue (.map raw) = .ok options) (some : changes ≠ [])
    (anew : ofValue catalogue (.map (replaced raw changes)) = .ok changed) :
    options.override catalogue changes = .ok changed ↔ options.Outlast catalogue fields := by
  refine ⟨fun overrides => ?_, fun outlast =>
    (override_ok_iff named distinct accepted outlast).mpr anew⟩
  unfold override at overrides
  rw [if_neg some] at overrides
  cases writes : options.breaks? catalogue with
  | some failure => simp [writes] at overrides
  | none =>
      simp only [writes] at overrides
      exact ⟨writes, fun field given stays =>
        survives_of_override named distinct accepted anew overrides given stays⟩

omit named in
/-- Where functions are nothing else, options outlast whatever is overridden. -/
theorem outlast_of_plain (plain : catalogue.IsPlain)
    (accepted : ofValue catalogue (.map raw) = .ok options) (fields : List Field) :
    options.Outlast catalogue fields := by
  refine ⟨breaks?_of_plain plain options, fun field given _ => ?_⟩
  obtain ⟨_, change, reads, rfl, _⟩ := ofValue_ok_iff.mp accepted
  obtain ⟨name, member, present⟩ := (mem_given_built reads).mp given
  obtain ⟨value, found⟩ := Option.ne_none_iff_exists'.mp present
  obtain ⟨stands, inner, refers, readsInner, valued⟩ := value_of_reads reads found member
  unfold Field.Survives
  rw [Value.written_of_plain plain, valued]
  exact Field.referredAt_value plain member refers readsInner {}

end Options

end TemplateBundle
