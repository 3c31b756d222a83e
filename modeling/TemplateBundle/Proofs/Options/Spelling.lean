import Mathlib.Data.List.Forall2
import Mathlib.Data.List.Nodup
import TemplateBundle.Proofs.Options.Acceptance
import TemplateBundle.Proofs.Program.Effect

/-!
Contract: raw options under other spellings of their names.

Owns: the plain spelling of a name, which names stand for one another by it, and the law that raw
options are accepted as the same options however their names are spelled, in whatever order.

Raw options that give one option under two spellings are left out: spelled alike, both would stand
under one key, and a map has no key twice.
-/

namespace TemplateBundle

variable {catalogue : Catalogue} {raw renamed other : Entries} {options : Options} {field : Field}
  {change : Options → Options} {name another : String} {key value : Value}

/-! ### Plain spellings -/

namespace Field

/-- The plain spelling of a name. The names of the options in joined words have another one, and so
has the name in joined words for a function of the namespace. -/
def plainSpelling (name : String) : String :=
  match all.find? fun field => field.joinedName = name with
  | some field => field.name
  | none => if name = "namespaceFunction" then "namespace_function" else name

theorem plainSpelling_cases (name : String) :
    (∃ field : Field, name = field.joinedName ∧ plainSpelling name = field.name) ∨
    (name = "namespaceFunction" ∧ plainSpelling name = "namespace_function") ∨
    plainSpelling name = name := by
  unfold plainSpelling
  split
  · rename_i field finds
    have joined : field.joinedName = name := by simpa using List.find?_some finds
    exact .inl ⟨field, joined.symm, rfl⟩
  · split
    · rename_i isFunction
      exact .inr (.inl ⟨isFunction, rfl⟩)
    · exact .inr (.inr rfl)

/-- What holds of both spellings of each option, or of neither, and so of a function of the
namespace, holds of a name if it holds of its plain spelling. -/
theorem plainSpelling_iff (holds : String → Prop)
    (options : ∀ field ∈ all, holds field.name ↔ holds field.joinedName)
    (function : holds "namespace_function" ↔ holds "namespaceFunction") (name : String) :
    holds (plainSpelling name) ↔ holds name := by
  rcases plainSpelling_cases name with ⟨field, rfl, plain⟩ | ⟨rfl, plain⟩ | plain
  · rw [plain]
    exact options field field.mem_all
  · rw [plain]
    exact function
  · rw [plain]

theorem plainSpelling_mem_spellings (field : Field) (name : String) :
    plainSpelling name ∈ field.spellings ↔ name ∈ field.spellings := by
  have together : ∀ field ∈ all, (∀ one ∈ all, one.name ∈ field.spellings ↔
      one.joinedName ∈ field.spellings) ∧
      ("namespace_function" ∈ field.spellings ↔ "namespaceFunction" ∈ field.spellings) := by
    decide +kernel
  obtain ⟨options, function⟩ := together field field.mem_all
  exact plainSpelling_iff (· ∈ field.spellings) options function name

end Field

open TemplateBundle.Field (plainSpelling)

/-- A name under its plain spelling may hold a reference to the same functions. -/
theorem Options.referredAt_plainSpelling (catalogue : Catalogue) (name : String) (value : Value) :
    referredAt catalogue (plainSpelling name) value = referredAt catalogue name value := by
  have isReference : plainSpelling name ∈ referenceNames ↔ name ∈ referenceNames :=
    Field.plainSpelling_iff (· ∈ referenceNames) (by decide +kernel) (by decide +kernel) name
  have isDependency : plainSpelling name = "amd" ↔ name = "amd" :=
    Field.plainSpelling_iff (· = "amd") (by decide +kernel) (by decide +kernel) name
  have isNamespace : namespaceFunctionNames.contains (plainSpelling name) =
      namespaceFunctionNames.contains name := by
    rw [Bool.eq_iff_iff]
    exact Field.plainSpelling_iff (namespaceFunctionNames.contains · = true) (by decide +kernel)
      (by decide +kernel) name
  have stands : standing catalogue (plainSpelling name) = standing catalogue name := by
    funext function
    simp only [standing, isDependency, isNamespace]
  unfold referredAt
  simp only [isReference]
  cases value with
  | text content => simp only [referred, isDependency, stands]
  | _ => rfl

/-- The plain spelling of a key. A key that is no text has none other. -/
def Value.plainKey : Value → Value
  | .text name => .text (plainSpelling name)
  | key => key

theorem Value.plainKey_eq_text (plain : key.plainKey = .text another) :
    ∃ name, key = .text name ∧ plainSpelling name = another := by
  cases key with
  | text name => exact ⟨name, rfl, Value.text.inj plain⟩
  | _ => simp [plainKey] at plain

/-! ### Raw options under other spellings -/

namespace Entries

/-- The names among the keys of a map. -/
def names (entries : Entries) : List String :=
  entries.filterMap fun entry => match entry.1 with | .text name => some name | _ => none

theorem mem_names : name ∈ raw.names ↔ .text name ∈ raw.keys := by
  unfold names keys
  rw [List.mem_filterMap, List.mem_map]
  refine exists_congr fun entry => and_congr_right fun _ => ?_
  cases entry.1 <;> simp

/-- Each entry under the plain spelling of its key. -/
def plain (entries : Entries) : Entries := entries.map fun entry => (entry.1.plainKey, entry.2)

theorem names_plain (entries : Entries) :
    entries.plain.names = entries.names.map plainSpelling := by
  unfold names plain
  rw [List.filterMap_map, List.map_filterMap]
  refine List.filterMap_congr fun entry _ => ?_
  simp only [Function.comp_apply]
  cases entry.1 <;> rfl

/-- No option is given twice, be it under one spelling or under two. -/
def SpellsOnce (entries : Entries) : Prop := (entries.names.map plainSpelling).Nodup

instance : DecidablePred SpellsOnce := fun entries => by
  unfold SpellsOnce
  infer_instance

/-- The value that is found under a name is any one that stands there. -/
theorem getText?_of_mem (once : raw.SpellsOnce) (member : (.text name, value) ∈ raw) :
    raw.getText? name = some value := by
  induction raw with
  | nil => simp at member
  | cons entry rest inductionHypothesis =>
      obtain ⟨first, held⟩ := entry
      rw [getText?_cons]
      by_cases same : first = .text name
      · subst same
        simp only [SpellsOnce, names, List.filterMap_cons, List.map_cons, List.nodup_cons] at once
        rcases List.mem_cons.mp member with isFirst | inRest
        · rw [if_pos rfl, (Prod.mk.inj isFirst).2]
        · refine absurd ?_ once.1
          exact List.mem_map_of_mem (mem_names.mpr (List.mem_map_of_mem inRest))
      · rw [if_neg same]
        refine inductionHypothesis ?_ ?_
        · refine List.Nodup.sublist (List.Sublist.map _ ?_) once
          exact List.Sublist.filterMap _ (List.sublist_cons_self _ _)
        · refine (List.mem_cons.mp member).resolve_left fun isFirst => same ?_
          exact (Prod.mk.inj isFirst).1.symm

theorem mem_of_getText? (found : raw.getText? name = some value) : (.text name, value) ∈ raw := by
  obtain ⟨⟨key, held⟩, finds, rfl⟩ := Option.map_eq_some_iff.mp found
  obtain rfl := (Value.sameKey_text key name).mp (by simpa using List.find?_some finds)
  exact List.mem_of_find?_eq_some finds

theorem SpellsOnce.unique (once : raw.SpellsOnce) (one : .text name ∈ raw.keys)
    (two : .text another ∈ raw.keys) (same : plainSpelling name = plainSpelling another) :
    name = another :=
  List.inj_on_of_nodup_map once (mem_names.mpr one) (mem_names.mpr two) same

end Entries

open Entries (SpellsOnce)

/-- The two entries hold one value, under spellings of one name. -/
def Options.SpellsSame (first second : Value × Value) : Prop :=
  first.1.plainKey = second.1.plainKey ∧ first.2 = second.2

theorem Options.plain_eq (renames : List.Forall₂ SpellsSame raw renamed) :
    raw.plain = renamed.plain := by
  unfold Entries.plain
  induction renames with
  | nil => rfl
  | cons alike _ inductionHypothesis =>
      rw [List.map_cons, List.map_cons, alike.1, alike.2, inductionHypothesis]

namespace Options

variable (same : raw.plain.Perm other.plain)

include same

theorem spellsOnce_of_perm (once : raw.SpellsOnce) : other.SpellsOnce := by
  unfold SpellsOnce at once ⊢
  rw [← Entries.names_plain] at once ⊢
  exact (same.filterMap _).nodup_iff.mp once

/-- What stands under a name stands under another spelling of it, too. -/
theorem mem_respelled (member : (key, value) ∈ raw) :
    ∃ stands, (stands, value) ∈ other ∧ stands.plainKey = key.plainKey := by
  have plain : (key.plainKey, value) ∈ raw.plain :=
    List.mem_map_of_mem (f := fun entry : Value × Value => (entry.1.plainKey, entry.2)) member
  obtain ⟨⟨stands, held⟩, inOther, isSame⟩ := List.mem_map.mp (same.mem_iff.mp plain)
  obtain ⟨plainSame, rfl⟩ := Prod.mk.inj isSame
  exact ⟨stands, inOther, plainSame⟩

theorem mem_keys_respelled (member : key ∈ raw.keys) :
    ∃ stands ∈ other.keys, stands.plainKey = key.plainKey := by
  obtain ⟨entry, inRaw, rfl⟩ := List.mem_map.mp member
  obtain ⟨stands, inOther, plain⟩ := mem_respelled same inRaw
  exact ⟨stands, List.mem_map_of_mem inOther, plain⟩

theorem text_respelled (member : (.text name, value) ∈ raw) :
    ∃ spelling, (.text spelling, value) ∈ other ∧ plainSpelling spelling = plainSpelling name := by
  obtain ⟨stands, inOther, plain⟩ := mem_respelled same member
  obtain ⟨spelling, rfl, plainSame⟩ := Value.plainKey_eq_text plain
  exact ⟨spelling, inOther, plainSame⟩

theorem knowsAll_respelled (knows : KnowsAll other) : KnowsAll raw := by
  intro key member
  obtain ⟨stands, inOther, plain⟩ := mem_keys_respelled same member
  obtain ⟨field, spelling, isSpelling, rfl⟩ := knows stands inOther
  obtain ⟨name, rfl, plainSame⟩ := Value.plainKey_eq_text plain.symm
  refine ⟨field, name, ?_, rfl⟩
  rw [← field.plainSpelling_mem_spellings, plainSame]
  exact (field.plainSpelling_mem_spellings spelling).mpr isSpelling

theorem getText?_respelled (member : name ∈ field.spellings)
    (found : raw.getText? name = some value) :
    ∃ spelling ∈ field.spellings, (.text spelling, value) ∈ other ∧
      plainSpelling spelling = plainSpelling name := by
  obtain ⟨spelling, inOther, plain⟩ := text_respelled same (Entries.mem_of_getText? found)
  refine ⟨spelling, ?_, inOther, plain⟩
  rw [← field.plainSpelling_mem_spellings, plain]
  exact (field.plainSpelling_mem_spellings name).mpr member

end Options

namespace Field

/-- Raw options under other spellings say the same of each option. -/
theorem Reads.respelled (same : raw.plain.Perm other.plain) (once : raw.SpellsOnce)
    (reads : field.Reads catalogue raw change) : field.Reads catalogue other change := by
  have onceOther := Options.spellsOnce_of_perm same once
  cases reads with
  | absent absent =>
      refine .absent fun spelling member => ?_
      cases found : other.getText? spelling with
      | none => rfl
      | some held =>
          obtain ⟨name, isSpelling, inRaw, _⟩ :=
            Options.getText?_respelled same.symm member found
          have stands := Entries.getText?_of_mem once inRaw
          simp [absent name isSpelling] at stands
  | given name value stands inner member found alone refers readsInner =>
      obtain ⟨spelling, isSpelling, inOther, plain⟩ :=
        Options.getText?_respelled same member found
      refine .given spelling value stands inner isSpelling
        (Entries.getText?_of_mem onceOther inOther) (fun third among different => ?_) ?_ readsInner
      · cases held : other.getText? third with
        | none => rfl
        | some more =>
            -- It would come from the one name that is in use, which has one spelling here.
            obtain ⟨origin, isOrigin, inRaw, plainThird⟩ :=
              Options.getText?_respelled same.symm among held
            have sameOrigin : origin = name := by
              by_contra differs
              have stood := Entries.getText?_of_mem once inRaw
              simp [alone origin isOrigin differs] at stood
            refine absurd ?_ different
            refine onceOther.unique (Entries.mem_keys_of_getText? held)
              (List.mem_map_of_mem inOther) ?_
            rw [← plainThird, sameOrigin, plain]
      · rw [← Options.referredAt_plainSpelling, plain, Options.referredAt_plainSpelling]
        exact refers

end Field

namespace Options

/-- Raw options that give no option twice are accepted just if they are with any of their names
spelled otherwise and their entries in another order, and they are accepted as the same options: the
same value of each, and the same ones that count as given. -/
theorem ofValue_spelled_otherwise (catalogue : Catalogue) (once : raw.SpellsOnce)
    (renames : List.Forall₂ SpellsSame raw renamed) (reorders : renamed.Perm other)
    (options : Options) :
    ofValue catalogue (.map raw) = .ok options ↔ ofValue catalogue (.map other) = .ok options := by
  have same : raw.plain.Perm other.plain := by
    rw [plain_eq renames]
    exact reorders.map _
  have onceOther := spellsOnce_of_perm same once
  rw [ofValue_ok_iff, ofValue_ok_iff]
  refine and_congr ⟨knowsAll_respelled same.symm, knowsAll_respelled same⟩ ?_
  refine exists_congr fun change => and_congr_left fun _ => forall_congr' fun field => ?_
  exact ⟨Field.Reads.respelled same once, Field.Reads.respelled same.symm onceOther⟩

/-- A module with one function. -/
def letterModule : Catalogue := [("hooks", .loaded [⟨"letter", .function⟩])]

/-- A task with references to functions, under plain names. -/
def plainlySpelled : Entries :=
  [(.text "input_dir", .text "views"), (.text "process_ast", .text "hooks:letter"),
    (.text "namespace_function", .text "hooks:letter"), (.text "amd", .text "hooks:letter"),
    (.text "partial_regex", .text "^part")]

/-- The same task with some of the names in joined words. -/
def partlyJoined : Entries :=
  [(.text "input_dir", .text "views"), (.text "processAST", .text "hooks:letter"),
    (.text "namespaceFunction", .text "hooks:letter"), (.text "amd", .text "hooks:letter"),
    (.text "partialRegex", .text "^part")]

theorem ofValue_spelled_otherwise_with_functions :
    plainlySpelled.SpellsOnce ∧ List.Forall₂ SpellsSame plainlySpelled partlyJoined ∧
    partlyJoined.Perm partlyJoined.reverse ∧
    ∃ options, options.given = [.inputDir, .namespaceRule, .amd, .partialRegex, .processAst] ∧
      ofValue letterModule (.map plainlySpelled) = .ok options ∧
      ofValue letterModule (.map partlyJoined.reverse) = .ok options := by
  have once : plainlySpelled.SpellsOnce := by decide +kernel
  have renames : List.Forall₂ SpellsSame plainlySpelled partlyJoined := by
    unfold plainlySpelled partlyJoined SpellsSame
    simp only [List.forall₂_cons, List.forall₂_nil_right_iff]
    decide +kernel
  have reorders : partlyJoined.Perm partlyJoined.reverse := (List.reverse_perm _).symm
  have succeeds : (ofValue letterModule (.map plainlySpelled)).toOption.map Options.given =
      some [.inputDir, .namespaceRule, .amd, .partialRegex, .processAst] := by decide +kernel
  obtain ⟨options, accepted, given⟩ := Option.map_eq_some_iff.mp succeeds
  have accepts := ok_of_toOption accepted
  exact ⟨once, renames, reorders, options, given, accepts,
    (ofValue_spelled_otherwise letterModule once renames reorders options).mp accepts⟩

end Options

end TemplateBundle
