import TemplateBundle.Options.Reference
import TemplateBundle.Proofs.Value.Entries

/-!
Contract: what the replacement of references by functions does to raw options.

Owns: the value that stands under a name afterwards, as a function of the one that stood there,
the keys that raw options have then, and when the replacement succeeds.

Does not own: how the values are read after that (`Proofs.Options.Acceptance`).
-/

namespace TemplateBundle.Options

variable {catalogue : Catalogue} {raw changed resolved moved : Entries} {names : List String}
  {name : String} {key value : Value}

/-! ### References -/

/-- What a value under a name stands for: what the function that it refers to does, or itself. -/
def referred (catalogue : Catalogue) (name : String) : Value → Except Failure Value
  | .text content =>
      if name = "amd" ∧ ¬ content.toList.contains ':' then .ok (.text content)
      else (catalogue.find content).map (standing catalogue name)
  | other => .ok other

/-- What a value stands for whose name may hold a reference or not. -/
def referredAt (catalogue : Catalogue) (name : String) (value : Value) : Except Failure Value :=
  if name ∈ referenceNames then referred catalogue name value else .ok value

theorem referred_of_none (found : raw.getText? name = some value)
    (plain : reference? raw name = none) : referred catalogue name value = .ok value := by
  unfold reference? at plain
  rw [found] at plain
  cases value with
  | text content =>
      dsimp only at plain
      split at plain
      · rename_i isPlain
        simp only [referred, if_pos isPlain]
      · simp at plain
  | _ => rfl

theorem referred_of_some (catalogue : Catalogue) {content : String}
    (refers : reference? raw name = some content) :
    raw.getText? name = some (.text content) ∧
      referred catalogue name (.text content) =
        (catalogue.find content).map (standing catalogue name) := by
  unfold reference? at refers
  split at refers
  · rename_i held found
    split at refers
    · simp at refers
    · rename_i isReference
      obtain rfl := Option.some.inj refers
      exact ⟨found, by simp only [referred, if_neg isReference]⟩
  · simp at refers

/-- What is done to raw options where the references under some names are replaced: each value
is what it stood for, and nothing else is new. -/
structure Replaces (catalogue : Catalogue) (names : List String) (raw changed : Entries) :
    Prop where
  keys : ∀ key, key ∈ changed.keys ↔ key ∈ raw.keys
  inside : ∀ name value, name ∈ names → raw.getText? name = some value →
    ∃ stands, referred catalogue name value = .ok stands ∧ changed.getText? name = some stands
  outside : ∀ name, name ∉ names → changed.getText? name = raw.getText? name

theorem reference?_congr (same : changed.getText? name = raw.getText? name) :
    reference? changed name = reference? raw name := by
  unfold reference?
  rw [same]

/-- A step leaves raw options as they are, or sets what its function stands for in place of a
reference. -/
theorem resolveName_ok_iff :
    resolveName catalogue raw name = .ok changed ↔
      (reference? raw name = none ∧ changed = raw) ∨
      ∃ content function, reference? raw name = some content ∧
        catalogue.find content = .ok function ∧
        changed = raw.insertText name (standing catalogue name function) := by
  unfold resolveName
  cases refers : reference? raw name with
  | none => simp [eq_comm]
  | some content =>
      cases finds : catalogue.find content with
      | error failure => simp [Except.map, finds]
      | ok function => simp [Except.map, finds, eq_comm]

theorem resolveNames_cons_ok_iff :
    resolveNames catalogue (name :: names) raw = .ok resolved ↔
      ∃ changed, resolveName catalogue raw name = .ok changed ∧
        resolveNames catalogue names changed = .ok resolved := by
  rw [resolveNames]
  cases resolveName catalogue raw name <;> simp

theorem resolveName_replaces (resolves : resolveName catalogue raw name = .ok changed) :
    Replaces catalogue [name] raw changed := by
  rcases resolveName_ok_iff.mp resolves with
    ⟨plain, rfl⟩ | ⟨content, function, refers, finds, rfl⟩
  · refine ⟨fun _ => .rfl, fun other value member found => ?_, fun _ _ => rfl⟩
    obtain rfl := List.mem_singleton.mp member
    exact ⟨value, referred_of_none found plain, found⟩
  · obtain ⟨found, stands⟩ := referred_of_some catalogue refers
    rw [finds] at stands
    refine ⟨fun key => ?_, fun other value member holds => ?_, fun other notName => ?_⟩
    · rw [Entries.mem_keys_insertText]
      refine or_iff_right_of_imp ?_
      rintro rfl
      exact Entries.mem_keys_of_getText? found
    · obtain rfl := List.mem_singleton.mp member
      obtain rfl : value = .text content := Option.some.inj (holds.symm.trans found)
      exact ⟨_, stands, by rw [Entries.getText?_insertText, if_pos rfl]⟩
    · rw [Entries.getText?_insertText, if_neg (by simpa using notName)]

theorem resolveName_total
    (stands : ∀ value, raw.getText? name = some value →
      ∃ found, referred catalogue name value = .ok found) :
    ∃ changed, resolveName catalogue raw name = .ok changed := by
  cases refers : reference? raw name with
  | none => exact ⟨raw, resolveName_ok_iff.mpr (.inl ⟨refers, rfl⟩)⟩
  | some content =>
      obtain ⟨found, refersTo⟩ := referred_of_some catalogue refers
      obtain ⟨replaced, succeeds⟩ := stands _ found
      rw [refersTo] at succeeds
      cases finds : catalogue.find content with
      | error failure => simp [finds, Except.map] at succeeds
      | ok function =>
          exact ⟨_, resolveName_ok_iff.mpr (.inr ⟨content, function, refers, finds, rfl⟩)⟩

theorem resolveNames_replaces (distinct : names.Nodup)
    (resolves : resolveNames catalogue names raw = .ok resolved) :
    Replaces catalogue names raw resolved := by
  induction names generalizing raw with
  | nil =>
      obtain rfl := Except.ok.inj resolves
      exact ⟨fun _ => .rfl, by simp, fun _ _ => rfl⟩
  | cons first rest inductionHypothesis =>
      obtain ⟨notInRest, distinctRest⟩ := List.nodup_cons.mp distinct
      obtain ⟨changed, step, resolvesRest⟩ := resolveNames_cons_ok_iff.mp resolves
      have once := resolveName_replaces step
      have later := inductionHypothesis distinctRest resolvesRest
      refine ⟨fun key => (later.keys key).trans (once.keys key), ?_, ?_⟩
      · intro name value member found
        rcases List.mem_cons.mp member with rfl | inRest
        · obtain ⟨stands, refers, holds⟩ := once.inside name value (by simp) found
          exact ⟨stands, refers, by rw [later.outside name notInRest, holds]⟩
        · have different : name ≠ first := by
            rintro rfl
            exact notInRest inRest
          refine later.inside name value inRest ?_
          rw [once.outside name (by simpa using different), found]
      · intro name notMember
        rw [List.mem_cons, not_or] at notMember
        rw [later.outside name notMember.2, once.outside name (by simpa using notMember.1)]

theorem Replaces.absent (replaces : Replaces catalogue names raw changed) :
    changed.getText? name = none ↔ raw.getText? name = none := by
  rw [Entries.getText?_eq_none_iff, Entries.getText?_eq_none_iff, replaces.keys]

/-- What stands under a name is what the value stood for that stood there. -/
theorem Replaces.found (replaces : Replaces catalogue referenceNames raw changed)
    (found : raw.getText? name = some value) :
    ∃ stands, referredAt catalogue name value = .ok stands ∧
      changed.getText? name = some stands := by
  unfold referredAt
  by_cases refers : name ∈ referenceNames
  · rw [if_pos refers]
    exact replaces.inside name value refers found
  · rw [if_neg refers]
    exact ⟨value, rfl, (replaces.outside name refers).trans found⟩

/-- References are replaced if each of them names a function. -/
theorem resolveNames_total (distinct : names.Nodup)
    (stands : ∀ name ∈ names, ∀ value, raw.getText? name = some value →
      ∃ found, referred catalogue name value = .ok found) :
    ∃ resolved, resolveNames catalogue names raw = .ok resolved := by
  induction names generalizing raw with
  | nil => exact ⟨raw, rfl⟩
  | cons first rest inductionHypothesis =>
      obtain ⟨notInRest, distinctRest⟩ := List.nodup_cons.mp distinct
      obtain ⟨changed, resolves⟩ := resolveName_total (stands first (by simp))
      have once := resolveName_replaces resolves
      have goesOn : ∃ resolved, resolveNames catalogue rest changed = .ok resolved := by
        refine inductionHypothesis distinctRest fun name member value found => ?_
        have different : name ≠ first := by
          rintro rfl
          exact notInRest member
        rw [once.outside name (by simpa using different)] at found
        exact stands name (List.mem_cons_of_mem _ member) value found
      obtain ⟨resolved, resolvesRest⟩ := goesOn
      exact ⟨resolved, resolveNames_cons_ok_iff.mpr ⟨changed, resolves, resolvesRest⟩⟩

theorem Replaces.of_found (replaces : Replaces catalogue referenceNames raw changed)
    (found : changed.getText? name = some value) :
    ∃ held, raw.getText? name = some held ∧ referredAt catalogue name held = .ok value := by
  cases given : raw.getText? name with
  | none => simp [replaces.absent.mpr given] at found
  | some held =>
      obtain ⟨stands, refers, same⟩ := replaces.found given
      obtain rfl := Option.some.inj (same.symm.trans found)
      exact ⟨held, rfl, refers⟩

/-! ### Functions of the namespace -/

/-- What is done to raw options where functions of the namespace are moved: nothing, or what stood
under the one name that is in use stands under the plain name then. -/
inductive Moves (names : List String) (raw : Entries) : Entries → Prop
  | none : (∀ name ∈ names, raw.getText? name = none) → Moves names raw raw
  | one (name : String) (value : Value) : name ∈ names → raw.getText? name = some value →
      (∀ other ∈ "namespace" :: names, other ≠ name → raw.getText? other = none) →
      Moves names raw ((raw.eraseText name).insertText "namespace" value)

theorem getText?_moved (raw : Entries) (place : String) (value : Value) (name : String) :
    ((raw.eraseText place).insertText "namespace" value).getText? name =
      if name = "namespace" then some value
      else if name = place then none else raw.getText? name := by
  rw [Entries.getText?_insertText, Entries.getText?_eraseText]

/-- Only names for the namespace are touched where its functions are moved. -/
theorem Moves.outside (moves : Moves names raw moved) (other : name ∉ "namespace" :: names) :
    moved.getText? name = raw.getText? name := by
  cases moves with
  | none _ => rfl
  | one place value member _ _ =>
      rw [List.mem_cons, not_or] at other
      rw [getText?_moved, if_neg other.1, if_neg]
      rintro rfl
      exact other.2 member

/-- At most one name for the namespace is in use where its functions are moved. -/
theorem Moves.alone (moves : Moves names raw moved) {one other : String}
    (inOne : one ∈ "namespace" :: names) (inOther : other ∈ "namespace" :: names)
    (isSome : (raw.getText? one).isSome) (isSomeOther : (raw.getText? other).isSome) :
    one = other := by
  cases moves with
  | none unused =>
      have plain {name : String} (member : name ∈ "namespace" :: names)
          (inUse : (raw.getText? name).isSome) : name = "namespace" := by
        refine (List.mem_cons.mp member).resolve_right fun inNames => ?_
        simp [unused name inNames] at inUse
      exact (plain inOne isSome).trans (plain inOther isSomeOther).symm
  | one place value _ _ others =>
      have isPlace {name : String} (member : name ∈ "namespace" :: names)
          (inUse : (raw.getText? name).isSome) : name = place := by
        refine Decidable.byContradiction fun different => ?_
        simp [others name member different] at inUse
      exact (isPlace inOne isSome).trans (isPlace inOther isSomeOther).symm

/-- A name that is not in use makes no difference. -/
theorem Moves.cons_unused {first : String} {rest : List String}
    (unused : raw.getText? first = .none) (moves : Moves rest raw moved) :
    Moves (first :: rest) raw moved := by
  cases moves with
  | none absent => exact .none (List.forall_mem_cons.mpr ⟨unused, absent⟩)
  | one name value member held alone =>
      refine .one name value (List.mem_cons_of_mem _ member) held fun other among => ?_
      rcases List.mem_cons.mp among with rfl | inNames
      · exact alone "namespace" (by simp)
      · rcases List.mem_cons.mp inNames with rfl | inRest
        · exact fun _ => unused
        · exact alone other (List.mem_cons_of_mem _ inRest)

/-- Once the function under the first name is moved, no other name is in use: the plain name is
by now, and so the others were not. -/
theorem Moves.cons_moved {first : String} {rest : List String} {value : Value}
    (notInRest : "namespace" ∉ rest) (found : raw.getText? first = some value)
    (free : raw.getText? "namespace" = .none)
    (moves : Moves rest ((raw.eraseText first).insertText "namespace" value) moved) :
    Moves (first :: rest) raw moved := by
  cases moves with
  | none absent =>
      refine .one first value (by simp) found fun other among different => ?_
      rcases List.mem_cons.mp among with rfl | inNames
      · exact free
      · have inRest := (List.mem_cons.mp inNames).resolve_left different
        have still := absent other inRest
        have notPlain : other ≠ "namespace" := by
          rintro rfl
          exact notInRest inRest
        rwa [getText?_moved, if_neg notPlain, if_neg different] at still
  | one name held member _ alone =>
      have inUse := alone "namespace" (by simp) (by
        rintro rfl
        exact notInRest member)
      rw [getText?_moved, if_pos rfl] at inUse
      simp at inUse

theorem moveNamespaceFunctions_moves (distinct : ("namespace" :: names).Nodup)
    (moves : moveNamespaceFunctions names raw = .ok changed) : Moves names raw changed := by
  induction names generalizing raw with
  | nil =>
      obtain rfl := Except.ok.inj moves
      exact .none (by simp)
  | cons first rest inductionHypothesis =>
      simp only [List.nodup_cons, List.mem_cons, not_or] at distinct
      obtain ⟨⟨notFirst, notInRest⟩, firstNotInRest, distinctRest⟩ := distinct
      have later {raw : Entries} := @inductionHypothesis raw
        (List.nodup_cons.mpr ⟨notInRest, distinctRest⟩)
      unfold moveNamespaceFunctions at moves
      cases found : raw.getText? first with
      | none =>
          rw [found] at moves
          exact (later moves).cons_unused found
      | some value =>
          rw [found] at moves
          dsimp only at moves
          by_cases taken : raw.hasText "namespace" = true
          · simp [taken] at moves
          · rw [if_neg taken] at moves
            have free : raw.getText? "namespace" = none := by
              simpa [Entries.hasText] using taken
            exact (later moves).cons_moved notInRest found free

theorem moveNamespaceFunctions_of_absent (absent : ∀ name ∈ names, raw.getText? name = none) :
    moveNamespaceFunctions names raw = .ok raw := by
  induction names with
  | nil => rfl
  | cons first rest inductionHypothesis =>
      unfold moveNamespaceFunctions
      rw [absent first (by simp)]
      exact inductionHypothesis fun name member => absent name (List.mem_cons_of_mem _ member)

/-- Functions of the namespace are moved if at most one name for it is in use. -/
theorem moveNamespaceFunctions_total (distinct : ("namespace" :: names).Nodup)
    (alone : ∀ first ∈ "namespace" :: names, ∀ second ∈ "namespace" :: names,
      (raw.getText? first).isSome → (raw.getText? second).isSome → first = second) :
    ∃ changed, moveNamespaceFunctions names raw = .ok changed := by
  induction names generalizing raw with
  | nil => exact ⟨raw, rfl⟩
  | cons first rest inductionHypothesis =>
      simp only [List.nodup_cons, List.mem_cons, not_or] at distinct
      obtain ⟨⟨notFirst, notInRest⟩, firstNotInRest, distinctRest⟩ := distinct
      unfold moveNamespaceFunctions
      cases found : raw.getText? first with
      | none =>
          refine inductionHypothesis (List.nodup_cons.mpr ⟨notInRest, distinctRest⟩) ?_
          have widen (name : String) (member : name ∈ "namespace" :: rest) :
              name ∈ "namespace" :: first :: rest := by
            simp only [List.mem_cons] at member ⊢
            exact member.imp_right .inr
          exact fun one inOne other inOther =>
            alone one (widen one inOne) other (widen other inOther)
      | some value =>
          have noOther (other : String) (among : other ∈ "namespace" :: first :: rest)
              (different : other ≠ first) : raw.getText? other = none := by
            cases present : raw.getText? other with
            | none => rfl
            | some held =>
                exact absurd (alone other among first (by simp) (by simp [present])
                  (by simp [found])) different
          have free := noOther "namespace" (by simp) notFirst
          dsimp only
          rw [if_neg (by simp [Entries.hasText, free])]
          refine ⟨_, moveNamespaceFunctions_of_absent fun name member => ?_⟩
          have different : name ≠ first := by
            rintro rfl
            exact firstNotInRest member
          have notPlain : name ≠ "namespace" := by
            rintro rfl
            exact notInRest member
          rw [getText?_moved, if_neg notPlain, if_neg different]
          exact noOther name (by simp [member]) different

/-! ### References first, then functions of the namespace -/

theorem nodup_referenceNames : referenceNames.Nodup := by decide +kernel

theorem nodup_namespaceNames : ("namespace" :: namespaceFunctionNames).Nodup := by decide +kernel

theorem resolveInOrder_ok_iff :
    resolveInOrder catalogue names raw = .ok moved ↔
      ∃ resolved, resolveNames catalogue names raw = .ok resolved ∧
        moveNamespaceFunctions namespaceFunctionNames resolved = .ok moved := by
  unfold resolveInOrder
  cases resolveNames catalogue names raw <;> simp

theorem resolveReferences_ok (resolves : resolveReferences catalogue raw = .ok moved) :
    ∃ resolved, Replaces catalogue referenceNames raw resolved ∧
      Moves namespaceFunctionNames resolved moved := by
  obtain ⟨resolved, replaced, moves⟩ := resolveInOrder_ok_iff.mp resolves
  exact ⟨resolved, resolveNames_replaces nodup_referenceNames replaced,
    moveNamespaceFunctions_moves nodup_namespaceNames moves⟩

/-- What it takes for references to be replaced: each of them names a function, and the namespace is
given under one name at most. -/
structure Resolvable (catalogue : Catalogue) (raw : Entries) : Prop where
  stands : ∀ name ∈ referenceNames, ∀ value, raw.getText? name = some value →
    ∃ found, referred catalogue name value = .ok found
  alone : ∀ one ∈ "namespace" :: namespaceFunctionNames,
    ∀ other ∈ "namespace" :: namespaceFunctionNames,
      (raw.getText? one).isSome → (raw.getText? other).isSome → one = other

theorem Replaces.isSome_iff (replaces : Replaces catalogue names raw changed) (name : String) :
    (changed.getText? name).isSome = true ↔ (raw.getText? name).isSome = true := by
  rw [Option.isSome_iff_ne_none, Option.isSome_iff_ne_none, Ne, Ne, replaces.absent]

theorem resolveReferences_total_iff :
    (∃ moved, resolveReferences catalogue raw = .ok moved) ↔ Resolvable catalogue raw := by
  constructor
  · rintro ⟨moved, resolves⟩
    obtain ⟨resolved, replaces, moves⟩ := resolveReferences_ok resolves
    refine ⟨fun name member value found => ?_, fun one inOne other inOther isSome isSomeOther => ?_⟩
    · obtain ⟨stands, refers, _⟩ := replaces.inside name value member found
      exact ⟨stands, refers⟩
    · rw [← replaces.isSome_iff] at isSome isSomeOther
      exact moves.alone inOne inOther isSome isSomeOther
  · intro resolvable
    obtain ⟨resolved, resolves⟩ := resolveNames_total nodup_referenceNames resolvable.stands
    have replaces := resolveNames_replaces nodup_referenceNames resolves
    have alone : ∀ one ∈ "namespace" :: namespaceFunctionNames,
        ∀ other ∈ "namespace" :: namespaceFunctionNames,
          (resolved.getText? one).isSome → (resolved.getText? other).isSome → one = other := by
      intro one inOne other inOther isSome isSomeOther
      rw [replaces.isSome_iff] at isSome isSomeOther
      exact resolvable.alone one inOne other inOther isSome isSomeOther
    obtain ⟨moved, moves⟩ := moveNamespaceFunctions_total nodup_namespaceNames alone
    exact ⟨moved, resolveInOrder_ok_iff.mpr ⟨resolved, resolves, moves⟩⟩

end TemplateBundle.Options
