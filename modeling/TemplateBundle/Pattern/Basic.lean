import TemplateBundle.Text.Blank
import TemplateBundle.Text.Case
import TemplateBundle.Text.Word

/-!
Contract: patterns that a text is searched for.

Owns: the form of a pattern, the points that a match of it can lead to, and the search for a
match anywhere in a text.

The points come in the order in which they are preferred: the first way of a choice before the
second, more rounds of a loop before fewer unless the loop is reluctant. Where only one way
counts (a loop or a part that gives nothing back, a look ahead), it is the first.

Does not own: the notation of patterns (`Pattern.Notation`).
-/

namespace TemplateBundle

/-- The characters that classes and the case of letters are judged by. -/
inductive Alphabet where
  | unicode
  | ascii
deriving DecidableEq, Repr

/-- A class of characters that has a name in the notation. -/
inductive CharacterClass where
  | decimal
  | blank
  | word
deriving DecidableEq, Repr

/-- The character belongs to the class. -/
def CharacterClass.holds (alphabet : Alphabet) (kind : CharacterClass) (character : Char) : Bool :=
  (alphabet = .unicode || character.toNat < 128) &&
    match kind with
    | .decimal => Text.isDecimal character
    | .blank =>
        -- The four separators are blanks among all characters, but not among those of ASCII.
        Text.isBlank character &&
          (alphabet = .unicode || character.toNat < 28 || character = ' ')
    | .word => Text.isWord character

/-- How letters are read: in which alphabet, and whether their case counts. -/
structure Letters where
  alphabet : Alphabet
  ignoreCase : Bool
deriving DecidableEq, Repr

namespace Letters

/-- The lower-case code point of a code point of ASCII. -/
def lowerAscii (code : Nat) : Nat := if 65 ≤ code ∧ code ≤ 90 then code + 32 else code

/-- The code point that stands for all forms of a letter. -/
def fold (letters : Letters) (code : Nat) : Nat :=
  if letters.ignoreCase then
    match letters.alphabet with
    | .unicode => Text.lowerCode code
    | .ascii => lowerAscii code
  else code

/-- The code points that are the same letter as a given one. -/
def forms (letters : Letters) (code : Nat) : List Nat :=
  if letters.ignoreCase then
    match letters.alphabet with
    | .unicode => code :: Text.letterForms code
    | .ascii =>
        let lower := lowerAscii code
        if 97 ≤ lower ∧ lower ≤ 122 then [lower, lower - 32] else [code]
  else [code]

/-- The letter has more than one form. -/
def isCased (letters : Letters) (code : Nat) : Bool := (letters.forms code).any (· ≠ code)

end Letters

/-- One member of a set of characters. -/
inductive SetItem where
  /-- One code point. -/
  | single (code : Nat)
  /-- The code points from one to another. -/
  | range (first last : Nat)
  /-- A class, or what is not in it. -/
  | named (kind : CharacterClass) (negated : Bool)
deriving DecidableEq, Repr

/-- The greatest code point of the basic plane. -/
def basicPlaneEnd : Nat := 0xFFFF

/-- The character is meant by the item. If case is ignored, another form of the letter may be
meant instead. Beyond the basic plane a single member of a set means only what is folded to it. -/
def SetItem.holds (letters : Letters) (character : Char) : SetItem → Bool
  | .single code =>
      if basicPlaneEnd < code then letters.fold character.toNat = code
      else (letters.forms code).contains character.toNat
  | .range first last =>
      (letters.forms character.toNat).any fun form => first ≤ form && form ≤ last
  | .named kind negated => kind.holds letters.alphabet character != negated

/-- The item can mean a letter with more than one form. -/
def SetItem.isCased (letters : Letters) : SetItem → Bool
  | .single code => letters.isCased code
  | .range first last =>
      basicPlaneEnd < last || (List.range (last - first + 1)).any fun offset =>
        letters.isCased (first + offset)
  | .named _ _ => false

/-- What a loop prefers. -/
inductive Eagerness where
  /-- As many rounds as possible. -/
  | eager
  /-- As few rounds as possible. -/
  | reluctant
  /-- As many rounds as possible, each by its first way, and nothing is given back. -/
  | possessive
deriving DecidableEq, Repr

/-- A pattern. -/
inductive Pattern where
  /-- The empty match. -/
  | empty
  /-- Any character, the line feed only if `lines` says so. -/
  | anyCharacter (lines : Bool)
  /-- A character, or any other one. -/
  | letter (letters : Letters) (negated : Bool) (code : Nat)
  /-- A character of a set, or one outside it. -/
  | oneOf (letters : Letters) (negated : Bool) (items : List SetItem)
  /-- The start of the text, or of a line. -/
  | start (lines : Bool)
  /-- The end of the text or the place before a last line feed, or the end of a line. -/
  | finish (lines : Bool)
  /-- The very end of the text. -/
  | textEnd
  /-- A place between a word and what is no word, or any other place. -/
  | wordEdge (alphabet : Alphabet) (negated : Bool)
  | sequence (first second : Pattern)
  | either (left right : Pattern)
  /-- At least `least` times, and at most `most` times if that is given. -/
  | times (eagerness : Eagerness) (least : Nat) (most : Option Nat) (body : Pattern)
  /-- The first way to match alone. -/
  | firstWay (body : Pattern)
  /-- A group whose place is remembered under its number. -/
  | group (number : Nat) (body : Pattern)
  /-- The text of a group once more. -/
  | sameAs (letters : Letters) (number : Nat)
  /-- One pattern if a group has matched, else another. -/
  | given (number : Nat) (present absent : Pattern)
  /-- What follows does, or does not, match. -/
  | ahead (negated : Bool) (body : Pattern)
  /-- What stands so many characters before does, or does not, match. -/
  | behind (negated : Bool) (width : Nat) (body : Pattern)
deriving Repr

/-- The place of a group: where it began last, and where it ended last. -/
structure GroupMark where
  number : Nat
  start : Nat
  stop : Option Nat
deriving DecidableEq, Repr

/-- A point of a match: a position in the text, and the places of the groups so far. -/
structure MatchPoint where
  position : Nat
  marks : List GroupMark
deriving DecidableEq, Repr

namespace MatchPoint

/-- The point with the start of a group set. -/
def opening (number : Nat) (point : MatchPoint) : MatchPoint :=
  let fresh : GroupMark := ⟨number, point.position, none⟩
  if point.marks.any (·.number == number) then
    { point with marks := point.marks.map fun mark =>
        if mark.number = number then { mark with start := point.position } else mark }
  else { point with marks := point.marks ++ [fresh] }

/-- The point with the end of a group set. -/
def closing (number : Nat) (point : MatchPoint) : MatchPoint :=
  { point with marks := point.marks.map fun mark =>
      if mark.number = number then { mark with stop := some point.position } else mark }

/-- Where a group stands, if it has ended after its last start. -/
def span? (number : Nat) (point : MatchPoint) : Option (Nat × Nat) :=
  (point.marks.find? (·.number == number)).bind fun mark =>
    mark.stop.bind fun stop => if mark.start ≤ stop then some (mark.start, stop) else none

end MatchPoint

namespace Pattern

/-- Points without repetitions, in the order of their first appearance. -/
def distinct (points : List MatchPoint) : List MatchPoint :=
  (points.foldl (fun seen point => if seen.contains point then seen else point :: seen) []).reverse

/-- A word stands at a position. -/
def wordAt (alphabet : Alphabet) (text : Array Char) (position : Nat) : Bool :=
  match text[position]? with
  | some character => CharacterClass.word.holds alphabet character
  | none => false

/-- A line starts at a position. -/
def startsLine (text : Array Char) (position : Nat) : Bool :=
  position = 0 || text[position - 1]? == some '\n'

/-- The points after one more character, if it is accepted. -/
def afterCharacter (accepts : Char → Bool) (text : Array Char) (point : MatchPoint) :
    List MatchPoint :=
  match text[point.position]? with
  | some character =>
      if accepts character then [{ point with position := point.position + 1 }] else []
  | none => []

/-- A place that takes no character. -/
def atPlace (holds : Bool) (point : MatchPoint) : List MatchPoint := if holds then [point] else []

/-- The text from one position on stands at another one, for a number of characters. -/
def repeatsAt (letters : Letters) (text : Array Char) : Nat → Nat → Nat → Bool
  | 0, _, _ => true
  | count + 1, source, position =>
      match text[source]?, text[position]? with
      | some first, some second =>
          letters.fold first.toNat = letters.fold second.toNat &&
            repeatsAt letters text count (source + 1) (position + 1)
      | _, _ => false

/-- A state of a loop: the rounds that are done, whether the last of them beyond the least took
nothing, and the point that is reached. -/
structure Round where
  done : Nat
  stuck : Bool
  point : MatchPoint
deriving DecidableEq

/-- The bounds of a loop. -/
structure Bounds where
  least : Nat
  most : Option Nat

namespace Bounds

/-- The bounds that matter on a text of some length: more rounds that have to be done than it has
characters reach nothing new. -/
def within (bounds : Bounds) (size : Nat) : Bounds :=
  let least := min bounds.least (size + 1)
  ⟨least, bounds.most.map fun most => least + (most - bounds.least)⟩

/-- The number of rounds as far as it matters: without an upper bound the least number and any
greater one are the same. -/
def count (bounds : Bounds) (done : Nat) : Nat :=
  match bounds.most with
  | none => min done bounds.least
  | some _ => done

/-- One more round may be done. A round that took nothing is the last. -/
def allowsMore (bounds : Bounds) (round : Round) : Bool :=
  !round.stuck && bounds.most.all (round.done < ·)

/-- The state after a round that has to be done. -/
def afterNeeded (bounds : Bounds) (round : Round) (point : MatchPoint) : Round :=
  ⟨bounds.count (round.done + 1), false, point⟩

/-- The state after a round that need not be done. -/
def afterMore (bounds : Bounds) (round : Round) (point : MatchPoint) : Round :=
  ⟨bounds.count (round.done + 1), point.position = round.point.position, point⟩

end Bounds

/-- The points that a loop can lead to from a state on, and the states that were seen. What was
seen before leads to nothing new. -/
def rounds (step : MatchPoint → List MatchPoint) (bounds : Bounds) (reluctant : Bool) :
    Nat → List Round → Round → List MatchPoint × List Round
  | 0, seen, _ => ([], seen)
  | fuel + 1, seen, round =>
      if seen.contains round then ([], seen)
      else
        let goOn (next : MatchPoint → Round) : List MatchPoint × List Round :=
          (step round.point).foldl (fun (found, seen) point =>
            let (more, seen) := rounds step bounds reluctant fuel seen (next point)
            (found ++ more, seen)) ([], round :: seen)
        if round.done < bounds.least then goOn (bounds.afterNeeded round)
        else if bounds.allowsMore round then
          let (found, seen) := goOn (bounds.afterMore round)
          (if reluctant then round.point :: found else found ++ [round.point], seen)
        else ([round.point], round :: seen)

/-- The point that a loop leads to if every round is done by its first way. -/
def firstRounds (step : MatchPoint → List MatchPoint) (bounds : Bounds) :
    Nat → Round → Option MatchPoint
  | 0, _ => none
  | fuel + 1, round =>
      let next := (step round.point).head?
      if round.done < bounds.least then
        next.bind fun point => firstRounds step bounds fuel (bounds.afterNeeded round point)
      else if bounds.allowsMore round then
        match next with
        | some point => firstRounds step bounds fuel (bounds.afterMore round point)
        | none => some round.point
      else some round.point

/-- The points that a loop leads to, the preferred ones first. -/
def loopEnds (eagerness : Eagerness) (bounds : Bounds) (step : MatchPoint → List MatchPoint)
    (size : Nat) (point : MatchPoint) : List MatchPoint :=
  let bounds := bounds.within size
  let fuel := bounds.least + size + 3
  let start : Round := ⟨0, false, point⟩
  match eagerness with
  | .possessive => (firstRounds step bounds fuel start).toList
  | .eager => distinct (rounds step bounds false fuel [] start).1
  | .reluctant => distinct (rounds step bounds true fuel [] start).1

/-- The points that a match from a point on can lead to, the preferred ones first. -/
def ends : Pattern → Array Char → MatchPoint → List MatchPoint
  | .empty, _, point => [point]
  | .anyCharacter lines, text, point =>
      afterCharacter (fun character => lines || character ≠ '\n') text point
  | .letter letters negated code, text, point =>
      afterCharacter (fun character => (letters.forms code).contains character.toNat != negated)
        text point
  | .oneOf letters negated items, text, point =>
      afterCharacter (fun character => items.any (·.holds letters character) != negated)
        text point
  | .start lines, text, point =>
      atPlace (if lines then startsLine text point.position else point.position = 0) point
  | .finish lines, text, point =>
      let atFeed := text[point.position]? == some '\n'
      atPlace (point.position = text.size || (atFeed && (lines || point.position + 1 = text.size)))
        point
  | .textEnd, text, point => atPlace (point.position = text.size) point
  | .wordEdge alphabet negated, text, point =>
      let before := 0 < point.position && wordAt alphabet text (point.position - 1)
      -- An empty text has no places of either kind.
      atPlace (0 < text.size && (before != wordAt alphabet text point.position) != negated) point
  | .sequence first second, text, point =>
      distinct ((ends first text point).flatMap (ends second text))
  | .either left right, text, point => distinct (ends left text point ++ ends right text point)
  | .times eagerness least most body, text, point =>
      loopEnds eagerness ⟨least, most⟩ (ends body text) text.size point
  | .firstWay body, text, point => (ends body text point).take 1
  | .group number body, text, point =>
      distinct ((ends body text (point.opening number)).map (·.closing number))
  | .sameAs letters number, text, point =>
      match point.span? number with
      | some (origin, stop) =>
          if repeatsAt letters text (stop - origin) origin point.position then
            [{ point with position := point.position + (stop - origin) }]
          else []
      | none => []
  | .given number present absent, text, point =>
      if (point.span? number).isSome then ends present text point else ends absent text point
  | .ahead negated body, text, point =>
      match (ends body text point).head?, negated with
      | some found, false => [{ found with position := point.position }]
      | none, true => [point]
      | _, _ => []
  | .behind negated width body, text, point =>
      let found := if point.position < width then none
        else (ends body text { point with position := point.position - width }).head?
      match found, negated with
      | some found, false => [{ found with position := point.position }]
      | none, true => [point]
      | _, _ => []

/-- The pattern with only the groups in it that are asked for. -/
def keepGroups (kept : List Nat) : Pattern → Pattern
  | .sequence first second => .sequence (keepGroups kept first) (keepGroups kept second)
  | .either left right => .either (keepGroups kept left) (keepGroups kept right)
  | .times eagerness least most body => .times eagerness least most (keepGroups kept body)
  | .firstWay body => .firstWay (keepGroups kept body)
  | .group number body =>
      if kept.contains number then .group number (keepGroups kept body) else keepGroups kept body
  | .given number present absent =>
      .given number (keepGroups kept present) (keepGroups kept absent)
  | .ahead negated body => .ahead negated (keepGroups kept body)
  | .behind negated width body => .behind negated width (keepGroups kept body)
  | pattern => pattern

/-- The groups that a pattern asks for. -/
def askedGroups : Pattern → List Nat
  | .sequence first second => askedGroups first ++ askedGroups second
  | .either left right => askedGroups left ++ askedGroups right
  | .times _ _ _ body => askedGroups body
  | .firstWay body => askedGroups body
  | .group _ body => askedGroups body
  | .sameAs _ number => [number]
  | .given number present absent => number :: askedGroups present ++ askedGroups absent
  | .ahead _ body => askedGroups body
  | .behind _ _ body => askedGroups body
  | _ => []

/-- The pattern without the groups that nothing asks for. -/
def withoutIdleGroups (pattern : Pattern) : Pattern := pattern.keepGroups pattern.askedGroups

/-- A match of the pattern stands somewhere in the text. -/
def isFoundIn (pattern : Pattern) (text : String) : Bool :=
  let characters := text.toList.toArray
  (List.range (characters.size + 1)).any fun position =>
    !(pattern.ends characters ⟨position, []⟩).isEmpty

end Pattern

end TemplateBundle
