import TemplateBundle.Pattern.Basic
import TemplateBundle.Text.Numeral

/-!
Contract: the signs that a pattern is noted with.

Owns: the cut of a text into signs, in which a backslash and the character after it are one; what
an escape stands for; the members of sets; counts; and why a text notes no pattern.

A backslash at the very end is a fault as soon as the sign before it has been read.
-/

namespace TemplateBundle.Pattern

/-- Why a text notes no pattern. -/
inductive NotationFault where
  | malformed
  /-- A count, or the code of a character, is out of all range. -/
  | tooGreat
  /-- A count has more digits than are read. -/
  | longCount (digits : Nat)
  /-- All characters and those of ASCII alone are both asked for. -/
  | twoAlphabets
  | tooDeep
deriving DecidableEq, Repr

/-- A sign. -/
inductive Sign where
  | plain (character : Char)
  | escaped (character : Char)
  /-- A backslash with nothing after it. -/
  | dangling
deriving DecidableEq, Repr

/-- The signs of a text. -/
def signsOf : List Char → List Sign
  | [] => []
  | ['\\'] => [.dangling]
  | '\\' :: character :: rest => .escaped character :: signsOf rest
  | character :: rest => .plain character :: signsOf rest

/-- A fault that shows after some signs have been read, given those that follow. -/
def faultBefore (fault : NotationFault) (rest : List Sign) : NotationFault :=
  if rest.head? = some .dangling then .malformed else fault

/-- The characters of the plain signs at the start, as long as they are of a class. -/
def plainRun (accepts : Char → Bool) : List Sign → List Char × List Sign
  | .plain character :: rest =>
      if accepts character then
        let (run, after) := plainRun accepts rest
        (character :: run, after)
      else ([], .plain character :: rest)
  | rest => ([], rest)

/-- The same, but at most so many of them. -/
def plainRunUpTo (accepts : Char → Bool) : Nat → List Sign → List Char × List Sign
  | count + 1, .plain character :: rest =>
      if accepts character then
        let (run, after) := plainRunUpTo accepts count rest
        (character :: run, after)
      else ([], .plain character :: rest)
  | _, rest => ([], rest)

/-! ## Escapes -/

/-- The value of a digit in bases up to sixteen. -/
def digitValue? (character : Char) : Option Nat :=
  let code := character.toNat
  if 48 ≤ code ∧ code ≤ 57 then some (code - 48)
  else if 97 ≤ code ∧ code ≤ 102 then some (code - 87)
  else if 65 ≤ code ∧ code ≤ 70 then some (code - 55)
  else none

/-- The value of digits to a base. -/
def valueInBase (base : Nat) (digits : List Char) : Nat :=
  digits.foldl (fun value digit => value * base + (digitValue? digit).getD 0) 0

/-- The character is an octal digit. -/
def isOctal (character : Char) : Bool := '0' ≤ character && character ≤ '7'

/-- A place in a text, as it is noted. -/
inductive Place where
  | lineStart
  | lineEnd
  | textStart
  | textEnd
  | wordEdge (negated : Bool)
deriving DecidableEq, Repr

/-- What an escape stands for. -/
inductive Escaped where
  | code (code : Nat)
  | named (kind : CharacterClass) (negated : Bool)
  | place (place : Place)
  /-- The text of a group once more. -/
  | sameAs (number : Nat)

/-- The greatest code of a character that is looked up at all. -/
def codeLimit : Nat := 0x7FFFFFFF

/-- The greatest octal code. -/
def octalLimit : Nat := 0o377

/-- A code of exactly so many hexadecimal digits. -/
def readCode (count : Nat) (signs : List Sign) : Except NotationFault (Escaped × List Sign) :=
  let (digits, rest) := plainRunUpTo (fun digit => (digitValue? digit).isSome) count signs
  let code := valueInBase 16 digits
  if digits.length ≠ count then .error .malformed
  else if codeLimit < code then .error (faultBefore .tooGreat rest)
  else if 0x110000 ≤ code then .error .malformed
  else .ok (.code code, rest)

/-- The escapes that mean the same inside and outside a set. -/
def readCommonEscape (character : Char) (rest : List Sign) :
    Except NotationFault (Escaped × List Sign) :=
  match character with
  | 'd' => .ok (.named .decimal false, rest)
  | 'D' => .ok (.named .decimal true, rest)
  | 's' => .ok (.named .blank false, rest)
  | 'S' => .ok (.named .blank true, rest)
  | 'w' => .ok (.named .word false, rest)
  | 'W' => .ok (.named .word true, rest)
  | 'a' => .ok (.code 7, rest)
  | 'f' => .ok (.code 12, rest)
  | 'n' => .ok (.code 10, rest)
  | 'r' => .ok (.code 13, rest)
  | 't' => .ok (.code 9, rest)
  | 'v' => .ok (.code 11, rest)
  | 'x' => readCode 2 rest
  | 'u' => readCode 4 rest
  | 'U' => readCode 8 rest
  | _ =>
      -- A letter or digit without a meaning is refused.
      if character.isAlphanum then .error .malformed else .ok (.code character.toNat, rest)

/-- A digit other than zero after a backslash: three octal digits are a code, anything else is the
number of a group. -/
def readNumberEscape (first : Char) (rest : List Sign) :
    Except NotationFault (Escaped × List Sign) :=
  match plainRunUpTo Char.isDigit 1 rest with
  | ([second], after) =>
      match isOctal first && isOctal second, plainRunUpTo isOctal 1 after with
      | true, ([third], last) =>
          let code := valueInBase 8 [first, second, third]
          if octalLimit < code then .error .malformed else .ok (.code code, last)
      | _, _ => .ok (.sameAs (valueInBase 10 [first, second]), after)
  | _ => .ok (.sameAs (valueInBase 10 [first]), rest)

/-- An escape outside a set. -/
def readEscape (character : Char) (rest : List Sign) :
    Except NotationFault (Escaped × List Sign) :=
  match character with
  | 'A' => .ok (.place .textStart, rest)
  | 'Z' => .ok (.place .textEnd, rest)
  | 'b' => .ok (.place (.wordEdge false), rest)
  | 'B' => .ok (.place (.wordEdge true), rest)
  | '0' =>
      let (digits, after) := plainRunUpTo isOctal 2 rest
      .ok (.code (valueInBase 8 digits), after)
  | _ =>
      if character.isDigit then readNumberEscape character rest
      else readCommonEscape character rest

/-! ## Sets -/

/-- An escape inside a set. -/
def readSetEscape (character : Char) (rest : List Sign) :
    Except NotationFault (Escaped × List Sign) :=
  if character = 'b' then .ok (.code 8, rest)
  else if isOctal character then
    let (digits, after) := plainRunUpTo isOctal 2 rest
    let code := valueInBase 8 (character :: digits)
    if octalLimit < code then .error .malformed else .ok (.code code, after)
  else readCommonEscape character rest

/-- One member of a set, or an end of a range. -/
def readSetMember : List Sign → Except NotationFault (Escaped × List Sign)
  | .plain character :: rest => .ok (.code character.toNat, rest)
  | .escaped character :: rest => readSetEscape character rest
  | _ => .error .malformed

/-- The item that a member of a set is on its own. -/
def Escaped.item : Escaped → SetItem
  | .code value => .single value
  | .named kind negated => .named kind negated
  | .place _ => .single 0
  | .sameAs _ => .single 0

/-- The hyphen as a member of a set. -/
def hyphenItem : SetItem := .single 45

/-- The members of a set up to its bracket, the last one first. A bracket that comes first is a
member. -/
def readSet : Nat → List SetItem → List Sign → Except NotationFault (List SetItem × List Sign)
  | 0, _, _ => .error .malformed
  | fuel + 1, items, signs =>
      if signs.head? = some (.plain ']') ∧ items ≠ [] then .ok (items, signs.drop 1)
      else do
        let (first, after) ← readSetMember signs
        match after with
        | .plain '-' :: .plain ']' :: last => .ok (hyphenItem :: first.item :: items, last)
        | .plain '-' :: upper => do
            let (second, last) ← readSetMember upper
            match first, second with
            | .code low, .code high =>
                if low ≤ high then readSet fuel (.range low high :: items) last
                else .error .malformed
            | _, _ => .error .malformed
        | _ => readSet fuel (first.item :: items) after

/-- The members of a set, each once, in their order. -/
def distinctItems (items : List SetItem) : List SetItem :=
  items.foldl (fun seen item => if seen.contains item then seen else seen ++ [item]) []

/-! ## Counts -/

/-- A count: its bounds and what it prefers. -/
structure Count where
  least : Nat
  most : Option Nat
  eagerness : Eagerness

/-- The least number that is too great for a count. -/
def countLimit : Nat := 4294967295

/-- A bound of a count. -/
def readBound (digits : List Char) (rest : List Sign) : Except NotationFault Nat :=
  if Text.digitLimit < digits.length then .error (faultBefore (.longCount digits.length) rest)
  else if countLimit ≤ valueInBase 10 digits then .error (faultBefore .tooGreat rest)
  else .ok (valueInBase 10 digits)

/-- The digits of the bounds in braces, if what follows an opening brace is a count. -/
def readBraces? (signs : List Sign) : Option (List Char × List Char × List Sign) :=
  let (low, rest) := plainRun Char.isDigit signs
  match rest with
  | .plain '}' :: after => if low = [] then none else some (low, low, after)
  | .plain ',' :: rest =>
      let (high, rest) := plainRun Char.isDigit rest
      match rest with
      | .plain '}' :: after => some (low, high, after)
      | _ => none
  | _ => none

/-- A count with a mark for what it prefers. -/
def markCount (least : Nat) (most : Option Nat) : List Sign → Count × List Sign
  | .plain '?' :: rest => (⟨least, most, .reluctant⟩, rest)
  | .plain '+' :: rest => (⟨least, most, .possessive⟩, rest)
  | rest => (⟨least, most, .eager⟩, rest)

/-- A count at the start of some signs, if there is one. -/
def readCount : List Sign → Except NotationFault (Option (Count × List Sign))
  | .plain '*' :: rest => .ok (some (markCount 0 none rest))
  | .plain '+' :: rest => .ok (some (markCount 1 none rest))
  | .plain '?' :: rest => .ok (some (markCount 0 (some 1) rest))
  | .plain '\x7b' :: rest =>
      match readBraces? rest with
      | none => .ok none
      | some (low, high, after) => do
          let least ← if low = [] then .ok 0 else readBound low after
          let most ← if high = [] then .ok none else (readBound high after).map some
          if most.any (· < least) then .error .malformed
          else .ok (some (markCount least most after))
  | _ => .ok none

end TemplateBundle.Pattern
