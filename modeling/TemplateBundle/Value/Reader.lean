import TemplateBundle.Text.Blank
import TemplateBundle.Text.Numeral
import TemplateBundle.Value.Document

/-!
Contract: exchange documents that are read.

Owns: the parts of the texts in them, of which some are no characters, the value that a document
shows, and the reader. The reader accepts the three names of non-finite numbers; of a repeated
member the last value counts, at the place of the first. It says why a text is no document; the
first fault from the left counts.
-/

namespace TemplateBundle.Value

open TemplateBundle.Text

/-- A part of a text that is read: a character, or a surrogate without its partner, which is
none. -/
inductive Point where
  | whole (character : Char)
  | stray (unit : Nat)
deriving DecidableEq, Repr

namespace Point

def isStray : Point → Bool
  | .whole _ => false
  | .stray _ => true

def character? : Point → Option Char
  | .whole character => some character
  | .stray _ => none

/-- The character that a part is shown as: a stray, as the replacement character. -/
def shown : Point → Char
  | .whole character => character
  | .stray _ => '\ufffd'

end Point

/-- The text that some parts are shown as. -/
def shownText (points : List Point) : String := String.ofList (points.map Point.shown)

/-- A document that was read. -/
inductive Document where
  | null
  | bool (flag : Bool)
  | int (number : Int)
  | real (number : Decimal.Binary64)
  | text (points : List Point)
  | list (items : List Document)
  | map (members : List (List Point × Document))

namespace Document

mutual

/-- The value that a document shows. -/
def value : Document → Value
  | .null => .null
  | .bool flag => .bool flag
  | .int number => .int number
  | .real number => .real number
  | .text points => .text (shownText points)
  | .list items => .list (itemValues items)
  | .map members => .map (Entries.ofPairs (memberValues members))

/-- The values of the items of a list. -/
def itemValues : List Document → List Value
  | [] => []
  | item :: rest => value item :: itemValues rest

/-- The values of members, under their names. -/
def memberValues : List (List Point × Document) → List (Value × Value)
  | [] => []
  | (name, document) :: rest => (.text (shownText name), value document) :: memberValues rest

end

/-- The last member of a name. -/
def member? (members : List (List Point × Document)) (name : String) : Option Document :=
  (members.reverse.find? fun member => member.1 = name.toList.map Point.whole).map Prod.snd

/-- The document is a text that has parts which are no characters. -/
def isStray : Document → Bool
  | .text points => points.any Point.isStray
  | _ => false

end Document

/-- Why a text is no document, or one that is not read. -/
inductive DocumentFault where
  | malformed
  /-- A whole number has too many digits. -/
  | longNumeral
  /-- Lists and maps are nested too deeply. -/
  | tooDeep
deriving DecidableEq, Repr

/-- Text without the blanks that may stand between the parts of a document. -/
def skipBlanks (characters : List Char) : List Char :=
  characters.dropWhile fun character =>
    character = ' ' || character = '\t' || character = '\n' || character = '\r'

/-- The value of a hexadecimal digit. -/
def hexValue? (character : Char) : Option Nat :=
  let code := character.toNat
  if 48 ≤ code ∧ code ≤ 57 then some (code - 48)
  else if 97 ≤ code ∧ code ≤ 102 then some (code - 87)
  else if 65 ≤ code ∧ code ≤ 70 then some (code - 55)
  else none

/-- Four hexadecimal digits and what follows them. -/
def readUnit? : List Char → Option (Nat × List Char)
  | first :: second :: third :: fourth :: rest => do
      let first ← hexValue? first
      let second ← hexValue? second
      let third ← hexValue? third
      let fourth ← hexValue? fourth
      some (((first * 16 + second) * 16 + third) * 16 + fourth, rest)
  | _ => none

/-- A low surrogate that is escaped at once. -/
def readLowUnit? : List Char → Option (Nat × List Char)
  | '\\' :: 'u' :: rest =>
      match readUnit? rest with
      | some (unit, after) => if 0xDC00 ≤ unit ∧ unit < 0xE000 then some (unit, after) else none
      | none => none
  | _ => none

/-- What stands after an escaping backslash. -/
def readEscape? : List Char → Option (Point × List Char)
  | '"' :: rest => some (.whole '"', rest)
  | '\\' :: rest => some (.whole '\\', rest)
  | '/' :: rest => some (.whole '/', rest)
  | 'b' :: rest => some (.whole '\x08', rest)
  | 'f' :: rest => some (.whole '\x0c', rest)
  | 'n' :: rest => some (.whole '\n', rest)
  | 'r' :: rest => some (.whole '\r', rest)
  | 't' :: rest => some (.whole '\t', rest)
  | 'u' :: rest => do
      let (unit, after) ← readUnit? rest
      if 0xD800 ≤ unit ∧ unit < 0xE000 then
        match if unit < 0xDC00 then readLowUnit? after else none with
        | some (low, last) =>
            some (.whole (Char.ofNat (0x10000 + (unit - 0xD800) * 0x400 + (low - 0xDC00))), last)
        | none => some (.stray unit, after)
      else some (.whole (Char.ofNat unit), after)
  | _ => none

/-- The content of a string after its opening quote, and what follows the closing one. -/
def readString? : Nat → List Char → Option (List Point × List Char)
  | 0, _ => none
  | _, [] => none
  | _, '"' :: rest => some ([], rest)
  | fuel + 1, '\\' :: rest => do
      let (point, after) ← readEscape? rest
      let (content, last) ← readString? fuel after
      some (point :: content, last)
  | fuel + 1, character :: rest =>
      if character.toNat < 0x20 then none
      else do
        let (content, last) ← readString? fuel rest
        some (.whole character :: content, last)

/-- The fraction and exponent of a number, if it has one of them: its fraction's digits
and its decimal exponent. -/
def readFraction (characters : List Char) : Option (List Char) × List Char :=
  match characters with
  | '.' :: rest =>
      let digits := rest.takeWhile Char.isDigit
      if digits.isEmpty then (none, characters) else (some digits, rest.dropWhile Char.isDigit)
  | _ => (none, characters)

/-- The exponent that follows a number. -/
def readExponent (characters : List Char) : Option Int × List Char :=
  match characters with
  | mark :: rest =>
      if mark = 'e' ∨ mark = 'E' then
        let (below, unsigned) := match rest with
          | '-' :: after => (true, after)
          | '+' :: after => (false, after)
          | _ => (false, rest)
        let digits := unsigned.takeWhile Char.isDigit
        if digits.isEmpty then (none, characters)
        else
          let size : Int := (decimalValue digits : Nat)
          (some (if below then -size else size), unsigned.dropWhile Char.isDigit)
      else (none, characters)
  | [] => (none, characters)

/-- What a reader finds: a result, and what follows it. -/
abbrev Found (Result : Type) := Result × List Char

/-- A number: an integer unless it has a fraction or an exponent. -/
def readNumber (below : Bool) (characters : List Char) :
    Except DocumentFault (Found Document) :=
  let all := characters.takeWhile Char.isDigit
  match all with
  | [] => .error .malformed
  | first :: _ =>
      -- A numeral that starts with zero ends there.
      let digits := if first = '0' then ['0'] else all
      let (fraction, rest) := readFraction (characters.drop digits.length)
      let (exponent, rest) := readExponent rest
      match fraction, exponent with
      | none, none =>
          let size : Int := (decimalValue digits : Nat)
          if digitLimit < digits.length then .error .longNumeral
          else .ok (.int (if below then -size else size), rest)
      | _, _ =>
          let places := fraction.getD []
          .ok (.real (Decimal.Binary64.ofDecimal below (decimalValue (digits ++ places))
            (exponent.getD 0 - (places.length : Int))), rest)

/-- The words that are documents. -/
def words : List (String × Document) := [
  ("null", .null), ("true", .bool true), ("false", .bool false),
  ("NaN", .real Decimal.Binary64.notANumber),
  ("Infinity", .real (Decimal.Binary64.infinity false)),
  ("-Infinity", .real (Decimal.Binary64.infinity true))]

/-- A document that is no list, map or string. -/
def readScalar (characters : List Char) : Except DocumentFault (Found Document) :=
  match words.find? fun entry => entry.1.toList.isPrefixOf characters with
  | some (word, document) => .ok (document, characters.drop word.length)
  | none =>
      match characters with
      | '-' :: rest => readNumber true rest
      | _ => readNumber false characters

/-- A string after its opening quote. -/
def readText (characters : List Char) : Except DocumentFault (Found (List Point)) :=
  match readString? (characters.length + 1) characters with
  | some found => .ok found
  | none => .error .malformed

mutual

/-- A document at the start of the text. The second number says how deep lists and maps may be
nested. -/
def readValue : Nat → Nat → List Char → Except DocumentFault (Found Document)
  | 0, _, _ => .error .malformed
  | fuel + 1, depth, characters =>
      match characters with
      | '[' :: rest => (readList fuel depth (skipBlanks rest)).map fun (items, after) =>
          (.list items, after)
      | '\x7b' :: rest => (readMap fuel depth (skipBlanks rest)).map fun (members, after) =>
          (.map members, after)
      | '"' :: rest => (readText rest).map fun (points, after) => (.text points, after)
      | _ => readScalar characters
termination_by structural fuel => fuel

/-- A list after its opening bracket. -/
def readList : Nat → Nat → List Char → Except DocumentFault (Found (List Document))
  | 0, _, _ => .error .malformed
  | _, 0, _ => .error .tooDeep
  | _, _, ']' :: after => .ok ([], after)
  | fuel + 1, depth + 1, characters => readItems fuel depth characters
termination_by structural fuel => fuel

/-- The items of a list, from the first one to the closing bracket. -/
def readItems : Nat → Nat → List Char → Except DocumentFault (Found (List Document))
  | 0, _, _ => .error .malformed
  | fuel + 1, depth, characters => do
      let (item, after) ← readValue fuel depth characters
      match skipBlanks after with
      | ']' :: rest => .ok ([item], rest)
      | ',' :: rest => do
          let (items, last) ← readItems fuel depth (skipBlanks rest)
          .ok (item :: items, last)
      | _ => .error .malformed
termination_by structural fuel => fuel

/-- A map after its opening brace. -/
def readMap :
    Nat → Nat → List Char → Except DocumentFault (Found (List (List Point × Document)))
  | 0, _, _ => .error .malformed
  | _, 0, _ => .error .tooDeep
  | _, _, '\x7d' :: after => .ok ([], after)
  | fuel + 1, depth + 1, characters => readMembers fuel depth characters
termination_by structural fuel => fuel

/-- The members of a map, from the first one to the closing brace. -/
def readMembers :
    Nat → Nat → List Char → Except DocumentFault (Found (List (List Point × Document)))
  | 0, _, _ => .error .malformed
  | fuel + 1, depth, characters =>
      match characters with
      | '"' :: rest => do
          let (name, after) ← readText rest
          match skipBlanks after with
          | ':' :: start => do
              let (document, after) ← readValue fuel depth (skipBlanks start)
              match skipBlanks after with
              | '\x7d' :: rest => .ok ([(name, document)], rest)
              | ',' :: rest => do
                  let (members, last) ← readMembers fuel depth (skipBlanks rest)
                  .ok ((name, document) :: members, last)
              | _ => .error .malformed
          | _ => .error .malformed
      | _ => .error .malformed
termination_by structural fuel => fuel

end

/-- The document that a whole text is. -/
def readDocument (text : String) : Except DocumentFault Document := do
  let characters := skipBlanks text.toList
  let (document, rest) ← readValue (3 * characters.length + 3) depthLimit characters
  if (skipBlanks rest).isEmpty then .ok document else .error .malformed

end TemplateBundle.Value
