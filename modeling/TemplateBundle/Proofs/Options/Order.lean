import TemplateBundle.Proofs.Options.Reference
import TemplateBundle.Proofs.Program.Effect

/-!
Contract: the order in which references are looked for.

Owns: the orders of the names that are given, the law that two steps can change places, and the law
that it does not depend on the order whether references can be replaced, nor what comes of it.

Does not own: which failure is told where several references name no function. That one does depend
on the order.
-/

namespace TemplateBundle.Options

variable {catalogue : Catalogue} {raw between changed resolved moved : Entries}
  {names order : List String} {name place first second : String} {value : Value}

/-- An order of the names that are given and may hold references: each of them once. -/
def Visits (raw : Entries) (order : List String) : Prop :=
  order.Perm (referenceNames.filter raw.hasText)

instance (raw : Entries) (order : List String) : Decidable (Visits raw order) := by
  unfold Visits
  infer_instance

/-! ### Steps that change places -/

theorem reference?_resolveName (different : name ≠ place)
    (resolves : resolveName catalogue raw place = .ok changed) :
    reference? changed name = reference? raw name :=
  reference?_congr ((resolveName_replaces resolves).outside name (by simpa using different))

/-- Two steps that succeed one after the other also succeed the other way round, and they lead to
the same raw options. -/
theorem resolveName_comm (one : resolveName catalogue raw first = .ok between)
    (two : resolveName catalogue between second = .ok changed) :
    ∃ other, resolveName catalogue raw second = .ok other ∧
      resolveName catalogue other first = .ok changed := by
  by_cases same : first = second
  · subst same
    exact ⟨between, one, two⟩
  have sees := reference?_resolveName (Ne.symm same) one
  rcases resolveName_ok_iff.mp one with
    ⟨plain, rfl⟩ | ⟨content, function, refers, finds, rfl⟩
  · have stays := reference?_resolveName same two
    rw [plain] at stays
    exact ⟨changed, two, resolveName_ok_iff.mpr (.inl ⟨stays, rfl⟩)⟩
  · rcases resolveName_ok_iff.mp two with
      ⟨plain, rfl⟩ | ⟨another, found, refersTwo, findsTwo, rfl⟩
    · rw [sees] at plain
      exact ⟨raw, resolveName_ok_iff.mpr (.inl ⟨plain, rfl⟩), one⟩
    · rw [sees] at refersTwo
      have early : resolveName catalogue raw second =
          .ok (raw.insertText second (standing catalogue second found)) :=
        resolveName_ok_iff.mpr (.inr ⟨another, found, refersTwo, findsTwo, rfl⟩)
      have late := reference?_resolveName same early
      rw [refers] at late
      refine ⟨_, early, resolveName_ok_iff.mpr (.inr ⟨content, function, late, finds, ?_⟩)⟩
      have present := Entries.mem_keys_of_getText? (referred_of_some catalogue refers).1
      exact Entries.insertText_comm same present _ _

/-- References that can be replaced in one order can be in any other one, with the same result. The
induction is on the exchanges of neighbours that lead from the one order to the other. -/
theorem resolveNames_perm {others : List String} (permuted : names.Perm others)
    (resolves : resolveNames catalogue names raw = .ok resolved) :
    resolveNames catalogue others raw = .ok resolved := by
  induction permuted generalizing raw with
  | nil => exact resolves
  | cons name _ inductionHypothesis =>
      obtain ⟨changed, step, resolvesRest⟩ := resolveNames_cons_ok_iff.mp resolves
      exact resolveNames_cons_ok_iff.mpr ⟨changed, step, inductionHypothesis resolvesRest⟩
  | swap one other rest =>
      obtain ⟨between, stepOne, resolvesMore⟩ := resolveNames_cons_ok_iff.mp resolves
      obtain ⟨changed, stepTwo, resolvesRest⟩ := resolveNames_cons_ok_iff.mp resolvesMore
      obtain ⟨early, stepEarly, stepLate⟩ := resolveName_comm stepOne stepTwo
      refine resolveNames_cons_ok_iff.mpr ⟨early, stepEarly, ?_⟩
      exact resolveNames_cons_ok_iff.mpr ⟨changed, stepLate, resolvesRest⟩
  | trans _ _ firstHypothesis secondHypothesis =>
      exact secondHypothesis (firstHypothesis resolves)

/-- Nothing is done for a name that is not given. -/
theorem resolveName_of_absent (absent : raw.getText? name = none) :
    resolveName catalogue raw name = .ok raw := by
  refine resolveName_ok_iff.mpr (.inl ⟨?_, rfl⟩)
  unfold reference?
  rw [absent]

/-- Names that are not given can be left out. They are those of the raw options at the start: no
step gives a name. -/
theorem resolveNames_filter {given : String → Bool}
    (absent : ∀ name, given name = false → raw.getText? name = none) :
    resolveNames catalogue (names.filter given) raw = resolveNames catalogue names raw := by
  induction names generalizing raw with
  | nil => rfl
  | cons name rest inductionHypothesis =>
      cases isGiven : given name with
      | false =>
          rw [List.filter_cons_of_neg (by simp [isGiven]), inductionHypothesis absent, resolveNames,
            resolveName_of_absent (absent name isGiven)]
      | true =>
          rw [List.filter_cons_of_pos isGiven, resolveNames, resolveNames]
          cases step : resolveName catalogue raw name with
          | error failure => rfl
          | ok changed =>
              refine inductionHypothesis fun other notGiven => ?_
              exact (resolveName_replaces step).absent.mpr (absent other notGiven)

/-- Looking under the names that are given, in whatever order, comes to the same as looking under
every name. -/
theorem resolveInOrder_ok_iff_resolveReferences (visits : Visits raw order) :
    resolveInOrder catalogue order raw = .ok moved ↔
      resolveReferences catalogue raw = .ok moved := by
  have absent (name : String) (notGiven : raw.hasText name = false) :
      raw.getText? name = none := by
    simpa [Entries.hasText] using notGiven
  unfold resolveReferences
  rw [resolveInOrder_ok_iff, resolveInOrder_ok_iff]
  refine exists_congr fun resolved => and_congr_left fun _ => ?_
  have givenOnly : resolveNames catalogue (referenceNames.filter raw.hasText) raw =
      resolveNames catalogue referenceNames raw := resolveNames_filter absent
  rw [← givenOnly]
  exact ⟨resolveNames_perm visits, resolveNames_perm visits.symm⟩

/-! ### What comes of it -/

/-- The key is a name that may hold a reference. -/
def mayRefer (key : Value) : Bool := referenceNames.any fun name => key = .text name

theorem mayRefer_text (name : String) : mayRefer (.text name) = true ↔ name ∈ referenceNames := by
  simp [mayRefer]

/-- The entries that can hold no reference. -/
def otherEntries (raw : Entries) : Entries := raw.filter fun entry => !mayRefer entry.1

theorem not_mayRefer (member : name ∈ referenceNames) : (!mayRefer (.text name)) = false := by
  simpa using (mayRefer_text name).mpr member

theorem otherEntries_resolveName (member : name ∈ referenceNames)
    (resolves : resolveName catalogue raw name = .ok changed) :
    otherEntries changed = otherEntries raw := by
  rcases resolveName_ok_iff.mp resolves with ⟨_, rfl⟩ | ⟨_, function, _, _, rfl⟩
  · rfl
  · exact Entries.filter_insertText (fun key => !mayRefer key) (not_mayRefer member) ..

theorem otherEntries_resolveNames (within : ∀ name ∈ names, name ∈ referenceNames)
    (resolves : resolveNames catalogue names raw = .ok resolved) :
    otherEntries resolved = otherEntries raw := by
  induction names generalizing raw with
  | nil => rw [Except.ok.inj resolves]
  | cons first rest inductionHypothesis =>
      obtain ⟨changed, step, resolvesRest⟩ := resolveNames_cons_ok_iff.mp resolves
      rw [inductionHypothesis (fun name inRest => within name (List.mem_cons_of_mem _ inRest))
        resolvesRest, otherEntries_resolveName (within first (by simp)) step]

/-- A function of the namespace that is moved comes after all other entries. -/
theorem otherEntries_moved (member : place ∈ referenceNames)
    (free : raw.getText? "namespace" = none) (value : Value) :
    otherEntries ((raw.eraseText place).insertText "namespace" value) =
      otherEntries raw ++ [(.text "namespace", value)] := by
  have plain : mayRefer (.text "namespace") = false := by decide +kernel
  have stillFree : (raw.eraseText place).getText? "namespace" = none := by
    rw [Entries.getText?_eraseText, free, ite_self]
  rw [Entries.insertText_of_absent stillFree]
  unfold otherEntries
  rw [List.filter_append,
    Entries.filter_eraseText (fun key => !mayRefer key) (not_mayRefer member)]
  simp [plain]

theorem mem_referenceNames_of_namespace (member : name ∈ namespaceFunctionNames) :
    name ∈ referenceNames :=
  List.mem_append_right _ member

theorem ne_namespace_of_mem (member : name ∈ referenceNames) : name ≠ "namespace" := by
  rintro rfl
  exact absurd member (by decide +kernel)

/-- No function of the namespace is left where it stood. -/
theorem getText?_of_moves (moves : Moves namespaceFunctionNames raw moved)
    (member : name ∈ namespaceFunctionNames) : moved.getText? name = none := by
  cases moves with
  | none unused => exact unused name member
  | one place value _ _ others =>
      rw [getText?_moved, if_neg (ne_namespace_of_mem (mem_referenceNames_of_namespace member))]
      by_cases itself : name = place
      · rw [if_pos itself]
      · rw [if_neg itself, others name (List.mem_cons_of_mem _ member) itself]

/-- A function of the namespace comes behind all other entries. -/
theorem otherEntries_of_moves (moves : Moves namespaceFunctionNames raw moved)
    (member : name ∈ namespaceFunctionNames) (found : raw.getText? name = some value) :
    otherEntries moved = otherEntries raw ++ [(.text "namespace", value)] := by
  cases moves with
  | none unused => simp [unused name member] at found
  | one place held inUse stood others =>
      have isReference := mem_referenceNames_of_namespace inUse
      obtain rfl : name = place := by
        refine Decidable.byContradiction fun different => ?_
        simp [others name (List.mem_cons_of_mem _ member) different] at found
      obtain rfl := Option.some.inj (found.symm.trans stood)
      exact otherEntries_moved isReference
        (others "namespace" (by simp) (ne_namespace_of_mem isReference).symm) value

theorem eq_of_moves (moves : Moves names raw moved)
    (absent : ∀ name ∈ names, raw.getText? name = none) : moved = raw := by
  cases moves with
  | none _ => rfl
  | one place value inUse stood _ => simp [absent place inUse] at stood

/-- What comes of raw options whose references are replaced. -/
structure Resolves (catalogue : Catalogue) (raw moved : Entries) : Prop where
  /-- What stands under a name, if anything does, is what the value stood for that stood there. -/
  replaced : ∀ name ∈ referenceNames, name ∉ namespaceFunctionNames →
    (raw.getText? name).mapM (referred catalogue name) = .ok (moved.getText? name)
  /-- A function of the namespace stands under the plain name of it, behind all other entries. -/
  carried : ∀ name ∈ namespaceFunctionNames, moved.getText? name = none ∧
    ∀ value, raw.getText? name = some value → ∃ stands,
      referred catalogue name value = .ok stands ∧
      otherEntries moved = otherEntries raw ++ [(.text "namespace", stands)]
  /-- All other entries are what they were, in the same order. -/
  kept : (∀ name ∈ namespaceFunctionNames, raw.getText? name = none) →
    otherEntries moved = otherEntries raw

theorem resolves_of_resolveReferences (resolves : resolveReferences catalogue raw = .ok moved) :
    Resolves catalogue raw moved := by
  obtain ⟨resolved, resolvesNames, movesNames⟩ := resolveInOrder_ok_iff.mp resolves
  have replaces := resolveNames_replaces nodup_referenceNames resolvesNames
  have moves := moveNamespaceFunctions_moves nodup_namespaceNames movesNames
  have same := otherEntries_resolveNames (fun _ member => member) resolvesNames
  constructor
  case replaced =>
    intro name member other
    rw [moves.outside (by simp [ne_namespace_of_mem member, other])]
    cases found : raw.getText? name with
    | none =>
        rw [replaces.absent.mpr found]
        rfl
    | some value =>
        obtain ⟨stands, refers, holds⟩ := replaces.inside name value member found
        rw [holds, Option.mapM_some, refers]
        rfl
  case carried =>
    intro name member
    refine ⟨getText?_of_moves moves member, fun value found => ?_⟩
    obtain ⟨stands, refers, holds⟩ :=
      replaces.inside name value (mem_referenceNames_of_namespace member) found
    exact ⟨stands, refers, by rw [otherEntries_of_moves moves member holds, same]⟩
  case kept =>
    intro absent
    rw [eq_of_moves moves fun name member => replaces.absent.mpr (absent name member), same]

/-- The order in which references are looked for makes no difference. Whether they can all be
replaced is a matter of the raw options alone; where they can, the same raw options come of any two
orders, entry by entry, and they are those that come of looking under every name. Each value under
a name for a reference gives way to what it stood for, a function of the namespace becomes the
namespace, and all other entries stay. -/
theorem resolveInOrder_any_order (catalogue : Catalogue) {other : List String}
    (visits : Visits raw order) (visitsOther : Visits raw other) :
    ((∃ moved, resolveInOrder catalogue order raw = .ok moved) ↔ Resolvable catalogue raw) ∧
    ∀ moved,
      (resolveInOrder catalogue order raw = .ok moved ↔
        resolveInOrder catalogue other raw = .ok moved) ∧
      (resolveInOrder catalogue order raw = .ok moved →
        resolveReferences catalogue raw = .ok moved ∧ Resolves catalogue raw moved) := by
  have same (moved : Entries) := @resolveInOrder_ok_iff_resolveReferences catalogue raw moved
  refine ⟨?_, fun moved => ⟨?_, fun resolves => ?_⟩⟩
  · rw [← resolveReferences_total_iff]
    exact exists_congr fun moved => same moved visits
  · exact (same moved visits).trans (same moved visitsOther).symm
  · have looked := (same moved visits).mp resolves
    exact ⟨looked, resolves_of_resolveReferences looked⟩

/-- A module with two functions. -/
def twoFunctions : Catalogue :=
  [("hooks", .loaded [⟨"name", .function⟩, ⟨"tree", .function⟩])]

/-- A task with three references, one of them for the namespace. Its dependency is none, and no
reference can stand where its directory does. -/
def threeReferences : Entries :=
  [(.text "processName", .text "hooks:name"), (.text "input_dir", .text "hooks:name"),
    (.text "namespace_function", .text "hooks:name"), (.text "amd", .text "helpers"),
    (.int 7, .null), (.text "process_ast", .text "hooks:tree")]

/-- The same task with functions in place of the references. -/
def threeFunctions : Entries :=
  [(.text "processName", .callable ⟨"hooks", "name"⟩), (.text "input_dir", .text "hooks:name"),
    (.text "amd", .text "helpers"), (.int 7, .null),
    (.text "process_ast", .callable ⟨"hooks", "tree"⟩),
    (.text "namespace", .callable ⟨"hooks", "name"⟩)]

theorem resolveInOrder_two_orders :
    Visits threeReferences ["amd", "namespace_function", "process_ast", "processName"] ∧
    Visits threeReferences ["process_ast", "processName", "namespace_function", "amd"] ∧
    resolveInOrder twoFunctions ["amd", "namespace_function", "process_ast", "processName"]
      threeReferences = .ok threeFunctions ∧
    resolveInOrder twoFunctions ["process_ast", "processName", "namespace_function", "amd"]
      threeReferences = .ok threeFunctions ∧
    resolveReferences twoFunctions threeReferences = .ok threeFunctions ∧
    Resolves twoFunctions threeReferences threeFunctions := by
  have visits :
      Visits threeReferences ["amd", "namespace_function", "process_ast", "processName"] := by
    decide +kernel
  have visitsOther :
      Visits threeReferences ["process_ast", "processName", "namespace_function", "amd"] := by
    decide +kernel
  have resolves : resolveInOrder twoFunctions
      ["amd", "namespace_function", "process_ast", "processName"] threeReferences =
        .ok threeFunctions :=
    ok_of_toOption (by decide +kernel)
  obtain ⟨_, ofBoth⟩ := resolveInOrder_any_order twoFunctions visits visitsOther
  obtain ⟨sameOther, sameAll⟩ := ofBoth threeFunctions
  exact ⟨visits, visitsOther, resolves, sameOther.mp resolves, sameAll resolves⟩

end TemplateBundle.Options
