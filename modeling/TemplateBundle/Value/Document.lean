import TemplateBundle.Text.Blank
import TemplateBundle.Text.Literal
import TemplateBundle.Text.Numeral
import TemplateBundle.Value.Basic

/-!
Contract: values written as exchange documents of objects, arrays, strings, numbers, booleans and
null.

Owns: the writer, and why a value has no document; the first fault from the left counts.
-/

namespace TemplateBundle.Value

open TemplateBundle.Text

/-- The text of a member's name, where the key has one. -/
def memberName? : Value → Option String
  | .text content => some content
  | .null => some "null"
  | .bool true => some "true"
  | .bool false => some "false"
  | .int number => some (toString number)
  | .real number => some (Decimal.documentLayout.render number)
  | _ => none

/-- The number of levels that the lists and maps of a document may be nested in. -/
def depthLimit : Nat := 970

/-- Why a value has no document. -/
inductive WritingFault where
  /-- A value has no form in a document. -/
  | formless (kind : String)
  /-- A key can name no member. -/
  | nameless (kind : String)
  /-- A whole number has too many digits. -/
  | longNumeral
  /-- Lists and maps are nested too deeply. -/
  | tooDeep
deriving DecidableEq, Repr

/-- A whole number of too many digits is not written. -/
def numeralFault? (number : Int) : Option WritingFault :=
  if digitLimit < (Nat.toDigits 10 number.natAbs).length then some .longNumeral else none

/-- Why a key names no member. -/
def keyFault? : Value → Option WritingFault
  | .int number => numeralFault? number
  | key => if (memberName? key).isSome then none else some (.nameless key.kindName)

mutual

/-- Why a value has no document, if lists and maps may be nested in so many levels. -/
def writingFault? : Nat → Value → Option WritingFault
  | _, .moment time => some (.formless (Value.moment time).kindName)
  | _, .callable function => some (.formless (Value.callable function).kindName)
  | _, .int number => numeralFault? number
  | 0, .list _ => some .tooDeep
  | depth + 1, .list items => itemsFault? depth items
  | 0, .map _ => some .tooDeep
  | depth + 1, .map entries => entriesFault? depth entries
  | _, _ => none

/-- Why the items of a list have no document. -/
def itemsFault? : Nat → List Value → Option WritingFault
  | _, [] => none
  | depth, item :: rest => (writingFault? depth item).or (itemsFault? depth rest)

/-- Why the entries of a map have no document. A key comes before its value. -/
def entriesFault? : Nat → List (Value × Value) → Option WritingFault
  | _, [] => none
  | depth, (key, value) :: rest =>
      ((keyFault? key).or (writingFault? depth value)).or (entriesFault? depth rest)

end

mutual

/-- The document of a value. A value without one is written as its text, or as null. -/
def writeDocument (range : LiteralRange) : Value → List Char
  | .null => "null".toList
  | .bool true => "true".toList
  | .bool false => "false".toList
  | .int number => (toString number).toList
  | .real number => (Decimal.documentLayout.render number).toList
  | .text content => literalCharacters range content.toList
  | .moment time => literalCharacters range time.text.toList
  | .list items => '[' :: writeItems range items
  | .map entries => '\x7b' :: writeMembers range entries
  | .callable _ => "null".toList

/-- The items of a list, up to and with the closing bracket. -/
def writeItems (range : LiteralRange) : List Value → List Char
  | [] => [']']
  | [item] => writeDocument range item ++ [']']
  | item :: next :: rest =>
      writeDocument range item ++ ',' :: ' ' :: writeItems range (next :: rest)

/-- The members of a map, up to and with the closing brace. -/
def writeMembers (range : LiteralRange) : List (Value × Value) → List Char
  | [] => ['\x7d']
  | [(key, value)] => writeMember range key value ++ ['\x7d']
  | (key, value) :: next :: rest =>
      writeMember range key value ++ ',' :: ' ' :: writeMembers range (next :: rest)

/-- One member. -/
def writeMember (range : LiteralRange) (key value : Value) : List Char :=
  literalCharacters range ((memberName? key).getD "").toList ++
    ':' :: ' ' :: writeDocument range value

end

/-- The document of a value as text. -/
def document (range : LiteralRange) (value : Value) : String :=
  String.ofList (writeDocument range value)

end TemplateBundle.Value
