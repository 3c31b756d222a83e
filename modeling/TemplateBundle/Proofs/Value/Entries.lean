import TemplateBundle.Value.Basic

/-!
Contract: maps as they are seen through their textual keys.

Owns: what is found under a name after each operation on a map, and the keys that the map has then.

A map is a list, in which nothing keeps a key from standing twice. What is found under a name is
what stands under it first, so that no law here asks for keys that are distinct, except where one
map is laid over another entry by entry.
-/

namespace TemplateBundle

/-- A key is the same as a textual one only if it is that text. -/
theorem Value.sameKey_text (key : Value) (name : String) :
    key.sameKey (.text name) = true ↔ key = .text name := by
  unfold Value.sameKey
  cases key with
  | text content => simp [Value.wholeNumber?]
  | real number =>
      cases whole : Value.wholeNumber? (.real number) <;> simp [Value.wholeNumber?]
  | _ => simp [Value.wholeNumber?]

namespace Entries

variable {entries changes more : Entries} {name place : String} {key value : Value}

/-- The keys of a map, in order. -/
def keys (entries : Entries) : List Value := entries.map Prod.fst

@[simp] theorem keys_nil : keys [] = [] := rfl

@[simp] theorem keys_cons (entry : Value × Value) (entries : Entries) :
    keys (entry :: entries) = entry.1 :: keys entries := rfl

@[simp] theorem keys_append (first second : Entries) :
    keys (first ++ second) = keys first ++ keys second :=
  List.map_append ..

/-! ### What is found -/

@[simp] theorem getText?_nil (name : String) : getText? [] name = none := rfl

theorem getText?_cons (key value : Value) (entries : Entries) (name : String) :
    getText? ((key, value) :: entries) name =
      if key = .text name then some value else entries.getText? name := by
  unfold getText? get?
  by_cases same : key = .text name
  · subst same
    have found : (Value.text name).sameKey (.text name) = true :=
      (Value.sameKey_text _ _).mpr rfl
    simp [found]
  · have missed := Bool.eq_false_iff.mpr (mt (Value.sameKey_text key name).mp same)
    simp [missed, same]

theorem getText?_append (first second : Entries) (name : String) :
    getText? (first ++ second) name = (first.getText? name).or (second.getText? name) := by
  unfold getText? get?
  rw [List.find?_append, Option.map_or]

theorem mem_keys_of_getText? (found : entries.getText? name = some value) :
    .text name ∈ entries.keys := by
  obtain ⟨⟨key, held⟩, finds, rfl⟩ := Option.map_eq_some_iff.mp found
  have same := (Value.sameKey_text key name).mp (by simpa using List.find?_some finds)
  exact List.mem_map.mpr ⟨(key, held), List.mem_of_find?_eq_some finds, same⟩

theorem getText?_isSome_iff :
    (entries.getText? name).isSome = true ↔ .text name ∈ entries.keys := by
  induction entries with
  | nil => simp
  | cons entry rest inductionHypothesis =>
      obtain ⟨key, value⟩ := entry
      rw [getText?_cons, keys_cons, List.mem_cons]
      by_cases same : key = .text name
      · simp [same]
      · rw [if_neg same, inductionHypothesis]
        simp [Ne.symm same]

theorem getText?_eq_none_iff : entries.getText? name = none ↔ .text name ∉ entries.keys := by
  rw [← getText?_isSome_iff]
  simp

/-- What is found under a name that some keys keep. -/
theorem getText?_filter (keeps : Value → Bool) (entries : Entries) (name : String) :
    getText? (entries.filter fun entry => keeps entry.1) name =
      if keeps (.text name) then entries.getText? name else none := by
  induction entries with
  | nil => simp
  | cons entry rest inductionHypothesis =>
      obtain ⟨key, value⟩ := entry
      by_cases kept : keeps key = true
      · simp only [List.filter_cons, kept, ↓reduceIte, getText?_cons, inductionHypothesis]
        by_cases same : key = .text name
        · simp [← same, kept]
        · simp [same]
      · simp only [List.filter_cons, kept, Bool.false_eq_true, ↓reduceIte, getText?_cons,
          inductionHypothesis]
        by_cases same : key = .text name
        · simp [← same, kept]
        · simp [same]

/-! ### Setting and taking away -/

theorem insertText_nil (name : String) (value : Value) :
    insertText [] name value = [(.text name, value)] := rfl

theorem insertText_cons (key held : Value) (entries : Entries) (name : String) (value : Value) :
    insertText ((key, held) :: entries) name value =
      if key = .text name then (key, value) :: entries
      else (key, held) :: entries.insertText name value := by
  unfold insertText
  rw [insert]
  simp only [Value.sameKey_text]

theorem getText?_insertText (entries : Entries) (place : String) (value : Value) (name : String) :
    (entries.insertText place value).getText? name =
      if name = place then some value else entries.getText? name := by
  induction entries with
  | nil =>
      rw [insertText_nil, getText?_cons]
      simp [eq_comm]
  | cons entry rest inductionHypothesis =>
      obtain ⟨key, held⟩ := entry
      rw [insertText_cons]
      by_cases same : key = .text place
      · rw [if_pos same, getText?_cons, getText?_cons, same]
        by_cases named : name = place
        · simp [named]
        · simp [named, Ne.symm named]
      · rw [if_neg same, getText?_cons, getText?_cons, inductionHypothesis]
        by_cases named : name = place
        · simp [named, same]
        · simp [named]

theorem mem_keys_insertText :
    key ∈ (entries.insertText place value).keys ↔ key = .text place ∨ key ∈ entries.keys := by
  induction entries with
  | nil => simp [insertText_nil]
  | cons entry rest inductionHypothesis =>
      obtain ⟨present, held⟩ := entry
      rw [insertText_cons]
      by_cases same : present = .text place
      · rw [if_pos same]
        simp [same]
      · rw [if_neg same, keys_cons, List.mem_cons, inductionHypothesis, keys_cons, List.mem_cons]
        exact or_left_comm

theorem insertText_of_absent (absent : entries.getText? name = none) (value : Value) :
    entries.insertText name value = entries ++ [(.text name, value)] := by
  rw [getText?_eq_none_iff] at absent
  induction entries with
  | nil => rfl
  | cons entry rest inductionHypothesis =>
      obtain ⟨key, held⟩ := entry
      rw [keys_cons, List.mem_cons, not_or] at absent
      rw [insertText_cons, if_neg (Ne.symm absent.1), inductionHypothesis absent.2,
        List.cons_append]

/-- Values are set under two names in either order. One of the names is there already: of two new
names the first one would stand first. -/
theorem insertText_comm (different : name ≠ place) (present : .text name ∈ entries.keys)
    (value held : Value) :
    (entries.insertText name value).insertText place held =
      (entries.insertText place held).insertText name value := by
  induction entries with
  | nil => simp at present
  | cons entry rest inductionHypothesis =>
      obtain ⟨key, old⟩ := entry
      rw [insertText_cons, insertText_cons]
      by_cases isName : key = .text name
      · have notPlace : key ≠ .text place := by simpa [isName] using different
        rw [if_pos isName, if_neg notPlace, insertText_cons, if_neg notPlace, insertText_cons,
          if_pos isName]
      · have inRest := (List.mem_cons.mp present).resolve_left (Ne.symm isName)
        rw [if_neg isName, insertText_cons]
        by_cases isPlace : key = .text place
        · rw [if_pos isPlace, if_pos isPlace, insertText_cons, if_neg isName]
        · rw [if_neg isPlace, if_neg isPlace, insertText_cons, if_neg isName,
            inductionHypothesis inRest]

/-- Where a value is set, the entries stay that have nothing to do with its name. -/
theorem filter_insertText (keeps : Value → Bool) (drops : keeps (.text name) = false)
    (entries : Entries) (value : Value) :
    (entries.insertText name value).filter (fun entry => keeps entry.1) =
      entries.filter fun entry => keeps entry.1 := by
  induction entries with
  | nil => simp [insertText_nil, drops]
  | cons entry rest inductionHypothesis =>
      obtain ⟨key, held⟩ := entry
      rw [insertText_cons]
      by_cases same : key = .text name
      · simp [same, drops]
      · simp only [if_neg same, List.filter_cons, inductionHypothesis]

theorem filter_eraseText (keeps : Value → Bool) (drops : keeps (.text name) = false)
    (entries : Entries) :
    (entries.eraseText name).filter (fun entry => keeps entry.1) =
      entries.filter fun entry => keeps entry.1 := by
  unfold eraseText erase
  rw [List.filter_filter]
  refine List.filter_congr fun entry _ => ?_
  by_cases same : entry.1 = .text name
  · simp [same, drops]
  · have different := Bool.eq_false_iff.mpr (mt (Value.sameKey_text entry.1 name).mp same)
    simp [different]

theorem getText?_eraseText (entries : Entries) (place name : String) :
    (entries.eraseText place).getText? name =
      if name = place then none else entries.getText? name := by
  have filtered := getText?_filter (fun key => !key.sameKey (.text place)) entries name
  change getText? (entries.eraseText place) name = _ at filtered
  rw [filtered]
  by_cases named : name = place
  · have same : (Value.text place).sameKey (.text place) = true :=
      (Value.sameKey_text _ _).mpr rfl
    simp [named, same]
  · have different : (Value.text name).sameKey (.text place) = false :=
      Bool.eq_false_iff.mpr (mt (Value.sameKey_text _ _).mp (by simpa using named))
    simp [named, different]

theorem mem_keys_eraseText :
    key ∈ (entries.eraseText place).keys ↔ key ≠ .text place ∧ key ∈ entries.keys := by
  have kept : (!key.sameKey (.text place)) = true ↔ key ≠ .text place := by
    rw [Bool.not_eq_true', ← Bool.not_eq_true, Value.sameKey_text]
  constructor
  · intro member
    obtain ⟨entry, inErased, rfl⟩ := List.mem_map.mp member
    obtain ⟨inEntries, keeps⟩ := List.mem_filter.mp inErased
    exact ⟨kept.mp keeps, List.mem_map_of_mem inEntries⟩
  · rintro ⟨different, member⟩
    obtain ⟨entry, inEntries, rfl⟩ := List.mem_map.mp member
    exact List.mem_map_of_mem (List.mem_filter.mpr ⟨inEntries, kept.mpr different⟩)

/-! ### One map over another -/

/-- The names under which a map has something. -/
def HasNames (entries : Entries) (names : List String) : Prop :=
  entries.keys = names.map .text

/-- Of a map laid over another one, its own entries are found first. -/
theorem getText?_update {names : List String} (named : changes.HasNames names)
    (distinct : names.Nodup) (entries : Entries) (name : String) :
    (entries.update changes).getText? name =
      (changes.getText? name).or (entries.getText? name) := by
  induction changes generalizing entries names with
  | nil => rfl
  | cons change rest inductionHypothesis =>
      obtain ⟨key, value⟩ := change
      cases names with
      | nil => simp [HasNames] at named
      | cons first others =>
          simp only [HasNames, keys_cons, List.map_cons, List.cons.injEq] at named
          obtain ⟨rfl, namedRest⟩ := named
          rw [List.nodup_cons] at distinct
          have goesOn := inductionHypothesis namedRest distinct.2 (entries.insertText first value)
          change getText? (update (entries.insertText first value) rest) name = _
          rw [goesOn, getText?_insertText, getText?_cons]
          by_cases same : name = first
          · have absent : getText? rest name = none := by
              rw [getText?_eq_none_iff, namedRest, same]
              simpa using distinct.1
            subst same
            simp [absent]
          · simp [same, Ne.symm same]

theorem mem_keys_update {names : List String} (named : changes.HasNames names) :
    key ∈ (entries.update changes).keys ↔ key ∈ changes.keys ∨ key ∈ entries.keys := by
  induction changes generalizing entries names with
  | nil => simp [update]
  | cons change rest inductionHypothesis =>
      obtain ⟨present, value⟩ := change
      cases names with
      | nil => simp [HasNames] at named
      | cons first others =>
          simp only [HasNames, keys_cons, List.map_cons, List.cons.injEq] at named
          obtain ⟨rfl, namedRest⟩ := named
          have goesOn := @inductionHypothesis (entries.insertText first value) others namedRest
          change key ∈ (update (entries.insertText first value) rest).keys ↔ _
          rw [goesOn, mem_keys_insertText, keys_cons, List.mem_cons]
          exact or_left_comm.trans or_assoc.symm

end Entries

end TemplateBundle
