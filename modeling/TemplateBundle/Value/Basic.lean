import TemplateBundle.Decimal.Notation
import TemplateBundle.Value.Moment

/-!
Contract: the nested values that options, configuration documents, hooks and compiler
exchanges are made of.

Owns: the value type, the names of its kinds, truth, equality of keys, and maps that keep
the order in which their keys came.

Does not own: the text of values (`Value.Display`, `Value.Document`).
-/

namespace TemplateBundle

/-- A function that a reference names: the module it is found in and its name there. -/
structure Callable where
  module : String
  name : String
deriving DecidableEq, Repr

/-- A nested value. Maps keep their entries in the order of first insertion. -/
inductive Value where
  | null
  | bool (flag : Bool)
  | int (number : Int)
  | real (number : Decimal.Binary64)
  | text (content : String)
  | moment (time : Moment)
  | list (items : List Value)
  | map (entries : List (Value × Value))
  | callable (function : Callable)

instance : Inhabited Value := ⟨.null⟩

namespace Value

mutual

/-- The two values are of one kind and have the same content. -/
def same : Value → Value → Bool
  | .null, .null => true
  | .bool left, .bool right => left == right
  | .int left, .int right => left == right
  | .real left, .real right => left == right
  | .text left, .text right => left == right
  | .moment left, .moment right => left == right
  | .list left, .list right => sameItems left right
  | .map left, .map right => sameEntries left right
  | .callable left, .callable right => left == right
  | _, _ => false

/-- The two lists agree item by item. -/
def sameItems : List Value → List Value → Bool
  | [], [] => true
  | left :: leftRest, right :: rightRest => same left right && sameItems leftRest rightRest
  | _, _ => false

/-- The two maps agree entry by entry, in order. -/
def sameEntries : List (Value × Value) → List (Value × Value) → Bool
  | [], [] => true
  | (leftKey, left) :: leftRest, (rightKey, right) :: rightRest =>
      same leftKey rightKey && same left right && sameEntries leftRest rightRest
  | _, _ => false

end

mutual

/-- The comparison holds exactly of equal values. -/
theorem same_iff : (left right : Value) → (same left right = true ↔ left = right)
  | .null, right => by cases right <;> simp [same]
  | .bool left, right => by cases right <;> simp [same]
  | .int left, right => by cases right <;> simp [same]
  | .real left, right => by cases right <;> simp [same]
  | .text left, right => by cases right <;> simp [same]
  | .moment left, right => by cases right <;> simp [same]
  | .list left, right => by
      cases right with
      | list items => simp [same, sameItems_iff left items]
      | _ => simp [same]
  | .map left, right => by
      cases right with
      | map entries => simp [same, sameEntries_iff left entries]
      | _ => simp [same]
  | .callable left, right => by cases right <;> simp [same]

theorem sameItems_iff : (left right : List Value) → (sameItems left right = true ↔ left = right)
  | [], right => by cases right <;> simp [sameItems]
  | item :: rest, right => by
      cases right with
      | nil => simp [sameItems]
      | cons other others => simp [sameItems, same_iff item other, sameItems_iff rest others]

theorem sameEntries_iff : (left right : List (Value × Value)) →
    (sameEntries left right = true ↔ left = right)
  | [], right => by cases right <;> simp [sameEntries]
  | (key, item) :: rest, right => by
      cases right with
      | nil => simp [sameEntries]
      | cons other others =>
          obtain ⟨otherKey, otherItem⟩ := other
          simp [sameEntries, same_iff key otherKey, same_iff item otherItem,
            sameEntries_iff rest others]

end

instance : DecidableEq Value := fun left right =>
  decidable_of_iff (same left right = true) (same_iff left right)

/-- The name of a value's kind, as messages give it. -/
def kindName : Value → String
  | .null => "NoneType"
  | .bool _ => "bool"
  | .int _ => "int"
  | .real _ => "float"
  | .text _ => "str"
  | .moment time => if time.clock.isSome then "datetime" else "date"
  | .list _ => "list"
  | .map _ => "dict"
  | .callable _ => "function"

/-- Empty and zero values count as false. -/
def truthy : Value → Bool
  | .null => false
  | .bool flag => flag
  | .int number => number != 0
  | .real number => number.magnitude != 0
  | .text content => !content.isEmpty
  | .moment _ => true
  | .list items => !items.isEmpty
  | .map entries => !entries.isEmpty
  | .callable _ => true

/-- The integer that a number or a boolean equals. -/
def wholeNumber? : Value → Option Int
  | .bool flag => some (if flag then 1 else 0)
  | .int number => some number
  | .real number => number.toInt?
  | _ => none

/-- Two keys are the same key: numbers by their value, moments by their instant, everything else
by its kind and content. A word that is no number is no key twice. -/
def sameKey (left right : Value) : Bool :=
  match left.wholeNumber?, right.wholeNumber? with
  | some first, some second => first == second
  | none, none =>
      match left, right with
      | .real first, .real second => first == second && !first.isNotANumber
      | .moment first, .moment second => first.isSame second
      | _, _ => left == right
  | _, _ => false

end Value

/-- The entries of a map. -/
abbrev Entries := List (Value × Value)

namespace Entries

/-- The value under a key. -/
def get? (entries : Entries) (key : Value) : Option Value :=
  (entries.find? fun entry => entry.1.sameKey key).map Prod.snd

/-- The value under a textual key. -/
def getText? (entries : Entries) (key : String) : Option Value := entries.get? (.text key)

/-- The key is present. -/
def hasText (entries : Entries) (key : String) : Bool := (entries.getText? key).isSome

/-- Sets the value under a key: in place where the key is present, else at the end. -/
def insert : Entries → Value → Value → Entries
  | [], key, value => [(key, value)]
  | (present, old) :: rest, key, value =>
      if present.sameKey key then (present, value) :: rest
      else (present, old) :: insert rest key value

/-- Sets the value under a textual key. -/
def insertText (entries : Entries) (key : String) (value : Value) : Entries :=
  entries.insert (.text key) value

/-- The map without a key. -/
def erase (entries : Entries) (key : Value) : Entries :=
  entries.filter fun entry => !entry.1.sameKey key

/-- The map without a textual key. -/
def eraseText (entries : Entries) (key : String) : Entries := entries.erase (.text key)

/-- Sets all of the second map's entries in the first, in order. -/
def update (entries changes : Entries) : Entries :=
  changes.foldl (fun result entry => result.insert entry.1 entry.2) entries

/-- A map from entries in which a key may be repeated: its last value wins, at its first
place. -/
def ofPairs (pairs : List (Value × Value)) : Entries := Entries.update [] pairs

end Entries

end TemplateBundle
