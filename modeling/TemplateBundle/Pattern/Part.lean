import TemplateBundle.Pattern.Sign

/-!
Contract: the parts that a pattern is put together from.

Owns: flags, the width of a part, the part that one sign notes, and how alternatives are joined:
what all of them begin with is taken out, and alternatives of one character each become a set.

A set and a letter are not the same when case is ignored, so it matters which of them a part is.
-/

namespace TemplateBundle.Pattern

/-! ## Flags -/

/-- A way to read signs that can be turned on and off. -/
inductive Flag where
  | ignoreCase
  | lines
  | dotAll
  /-- Blanks and remarks between the parts do not count. -/
  | spaced
  | ascii
  | unicode
  /-- Counts are refused. -/
  | countless
deriving DecidableEq, Repr

/-- The flag that a character stands for. -/
def Flag.ofCharacter? : Char → Option Flag
  | 'i' => some .ignoreCase
  | 'm' => some .lines
  | 's' => some .dotAll
  | 'x' => some .spaced
  | 'a' => some .ascii
  | 'u' => some .unicode
  | 't' => some .countless
  | _ => none

/-- The flags that are on. -/
abbrev Flags := List Flag

namespace Flags

/-- An alphabet is among the flags. -/
def namesAlphabet (flags : Flags) : Bool := flags.contains .ascii || flags.contains .unicode

/-- Both alphabets are among the flags. -/
def namesBoth (flags : Flags) : Bool := flags.contains .ascii && flags.contains .unicode

/-- The flags inside a group that turns some on and others off. An alphabet takes the place of the
one before. -/
def changed (flags added removed : Flags) : Flags :=
  let kept := if added.namesAlphabet then flags.filter fun flag => flag ≠ .ascii ∧ flag ≠ .unicode
    else flags
  (kept ++ added).filter (!removed.contains ·)

/-- How letters are read. -/
def letters (flags : Flags) : Letters :=
  ⟨if flags.contains .ascii then .ascii else .unicode, flags.contains .ignoreCase⟩

end Flags

/-! ## Widths -/

/-- The least and the greatest number of characters that a part takes. -/
structure Width where
  least : Nat
  most : Nat
deriving DecidableEq, Repr

namespace Width

/-- Widths are told apart below this number only. -/
def limit : Nat := 18446744073709551616

/-- The width up to the limit. -/
def clip (least most : Nat) : Width := ⟨min least limit, min most limit⟩

/-- The width of nothing. -/
def zero : Width := ⟨0, 0⟩

/-- The width of one character. -/
def one : Width := ⟨1, 1⟩

/-- The width of one part after another. -/
def add (first second : Width) : Width :=
  clip (first.least + second.least) (first.most + second.most)

/-- The width of a choice. -/
def either (left right : Width) : Width :=
  ⟨min left.least right.least, max left.most right.most⟩

/-- The width of a part that is repeated. -/
def times (least : Nat) (most : Option Nat) (width : Width) : Width :=
  clip (width.least * least) <|
    match most with
    | some most => width.most * most
    | none => if width.most = 0 then 0 else limit

/-- The greatest number of characters that is looked behind. -/
def behindLimit : Nat := 4294967295

/-- It is known how many characters are looked behind. -/
def isFixed (width : Width) : Bool := width.least = width.most && width.least ≤ behindLimit

end Width

/-! ## Parts -/

/-- What a single sign or set notes. Two of them are compared as they are noted. -/
inductive Leaf where
  | letter (negated : Bool) (code : Nat)
  | oneOf (negated : Bool) (items : List SetItem)
  | anyCharacter
  | place (place : Place)
  | sameAs (number : Nat)
deriving DecidableEq

/-- A set of characters, as it is read. -/
structure CharacterSet where
  letters : Letters
  negated : Bool
  items : List SetItem

/-- A part of a pattern. -/
structure Part where
  pattern : Pattern
  width : Width
  /-- What notes the part, if that is a single sign or set. -/
  leaf : Option Leaf
  /-- The set that the part begins with. -/
  first : Option CharacterSet

/-- The pattern of a place. -/
def Place.pattern (flags : Flags) : Place → Pattern
  | .lineStart => .start (flags.contains .lines)
  | .lineEnd => .finish (flags.contains .lines)
  | .textStart => .start false
  | .textEnd => .textEnd
  | .wordEdge negated => .wordEdge flags.letters.alphabet negated

namespace Part

/-- A part with neither a leaf nor a set at its start. -/
def plain (pattern : Pattern) (width : Width) : Part := ⟨pattern, width, none, none⟩

/-- The part that takes a character of a set. -/
def oneOf (flags : Flags) (negated : Bool) (items : List SetItem) : Part :=
  ⟨.oneOf flags.letters negated items, .one, some (.oneOf negated items),
    some ⟨flags.letters, negated, items⟩⟩

/-- The part that takes a letter. -/
def letter (flags : Flags) (negated : Bool) (code : Nat) : Part :=
  { plain (.letter flags.letters negated code) .one with leaf := some (.letter negated code) }

/-- The part that takes any character. -/
def anyCharacter (flags : Flags) : Part :=
  { plain (.anyCharacter (flags.contains .dotAll)) .one with leaf := some .anyCharacter }

/-- The part that stands at a place. -/
def place (flags : Flags) (place : Place) : Part :=
  { plain (place.pattern flags) .zero with leaf := some (.place place) }

/-- The part that takes the text of a group once more. -/
def sameAs (flags : Flags) (number : Nat) (width : Width) : Part :=
  { plain (.sameAs flags.letters number) width with leaf := some (.sameAs number) }

/-- The part that a set in brackets notes: a letter, if that is all it has. -/
def ofSet (flags : Flags) (negated : Bool) (items : List SetItem) : Part :=
  match items with
  | [.single code] => letter flags negated code
  | _ => oneOf flags negated items

/-- The pattern of parts one after the other. -/
def sequence : List Part → Pattern
  | [] => .empty
  | [part] => part.pattern
  | part :: rest => .sequence part.pattern (sequence rest)

/-- The width of parts one after the other. -/
def totalWidth (parts : List Part) : Width :=
  parts.foldl (fun width part => width.add part.width) .zero

/-- The set that parts begin with. -/
def firstSet (parts : List Part) : Option CharacterSet := parts.head?.bind (·.first)

/-- Parts that are one part of a greater one. -/
def enclosed (wrap : Pattern → Pattern) (parts : List Part) : Part :=
  ⟨wrap (sequence parts), totalWidth parts, none, firstSet parts⟩

/-- Parts that are repeated together. -/
def counted (count : Count) (parts : List Part) : Part :=
  plain (.times count.eagerness count.least count.most (sequence parts))
    ((totalWidth parts).times count.least count.most)

/-! ## Alternatives -/

/-- The leaves that all branches begin with, and what is left of the first and the other ones. -/
def splitShared : List Part → List (List Part) → List Part × List (List Part)
  | [], others => ([], [] :: others)
  | part :: first, others =>
      if part.leaf.isSome ∧ others.all (fun branch => branch.head?.bind (·.leaf) = part.leaf) then
        let (shared, branches) := splitShared first (others.map (·.drop 1))
        (part :: shared, branches)
      else ([], (part :: first) :: others)

/-- The members of the set that a branch amounts to. -/
def setItems? : List Part → Option (List SetItem)
  | [part] =>
      match part.leaf with
      | some (.letter false code) => some [.single code]
      | some (.oneOf false items) => some items
      | _ => none
  | _ => none

/-- The choice between branches. -/
def choice : List (List Part) → Part
  | [] => plain .empty .zero
  | [branch] => plain (sequence branch) (totalWidth branch)
  | branch :: rest =>
      let others := choice rest
      plain (.either (sequence branch) others.pattern) ((totalWidth branch).either others.width)

/-- The parts that alternatives are read as. -/
def ofBranches (flags : Flags) : List (List Part) → List Part
  | [] => []
  | [branch] => branch
  | first :: others =>
      let (shared, branches) := splitShared first others
      shared ++ [match branches.mapM setItems? with
        | some items => oneOf flags false (distinctItems items.flatten)
        | none => choice branches]

end Part

/-! ## The first character -/

/-- The pattern of some parts, as a search looks for it. What a match begins with is first sought
in the alphabet of the whole pattern, also if the set has another one by itself. -/
def Part.sought (flags : Flags) (parts : List Part) : Pattern :=
  let body := sequence parts
  match firstSet parts with
  | some set =>
      let alphabet := flags.letters.alphabet
      if (totalWidth parts).least = 0 ∨ set.letters.alphabet = alphabet ∨
          set.items.any (·.isCased set.letters) then body
      else .sequence (.ahead false (.oneOf ⟨alphabet, false⟩ set.negated set.items)) body
  | none => body

end TemplateBundle.Pattern
