import TemplateBundle.Decimal.Binary64
import TemplateBundle.Text.Blank
import TemplateBundle.Text.Word

/-!
Contract: decimal numerals in texts that people write.

Owns: whole numbers with the digits of any script, the numerals with a sign, a fraction and an
exponent, the names of the non-finite numbers, single underscores inside a numeral, and the
length beyond which a whole number is not read.
-/

namespace TemplateBundle.Text

open TemplateBundle.Decimal

/-- The value of decimal digits. -/
def decimalValue (digits : List Char) : Nat :=
  digits.foldl (fun value digit => value * 10 + (digit.toNat - 48)) 0

/-- The greatest number of decimal digits that a whole number may have. -/
def digitLimit : Nat := 4300

/-- The value of a decimal digit of any script. -/
def digitValue? (character : Char) : Option Nat :=
  let code := character.toNat
  (decimalRanges.find? fun range => range.1 ≤ code && code ≤ range.2).map fun range =>
    (code - range.1) % 10

/-- A sign, and what follows it. -/
def readSign (characters : List Char) : Bool × List Char :=
  match characters with
  | '-' :: rest => (true, rest)
  | '+' :: rest => (false, rest)
  | _ => (false, characters)

/-- The values of digits. A single underscore may stand between two of them. -/
def spacedDigits? : List Char → Option (List Nat)
  | [] => none
  | [digit] => (digitValue? digit).map fun value => [value]
  | digit :: '_' :: rest => do
      let value ← digitValue? digit
      let values ← spacedDigits? rest
      some (value :: values)
  | digit :: rest => do
      let value ← digitValue? digit
      let values ← spacedDigits? rest
      some (value :: values)

/-- The characters that may stand around a whole number: blanks, in a text of ASCII only those
that are no separators. -/
def isNumberBlank (characters : List Char) (character : Char) : Bool :=
  isBlank character &&
    !(characters.all (·.toNat < 128) && 28 ≤ character.toNat && character.toNat ≤ 31)

/-- The text without the blanks that may stand around a whole number. -/
def trimNumber (characters : List Char) : List Char :=
  let blank := isNumberBlank characters
  ((characters.dropWhile blank).reverse.dropWhile blank).reverse

/-- The sign and the digits of a whole number. -/
def readWhole? (characters : List Char) : Option (Bool × List Nat) :=
  let (below, digits) := readSign (trimNumber characters)
  (spacedDigits? digits).map fun values => (below, values)

/-- The value of digits to the base of ten. -/
def valueOfDigits (digits : List Nat) : Nat :=
  digits.foldl (fun value digit => value * 10 + digit) 0

/-- A whole number with a sign, unless it has too many digits. -/
def wholeNumber? (characters : List Char) : Option Int := do
  let (below, digits) ← readWhole? characters
  let size : Int := (valueOfDigits digits : Nat)
  if digitLimit < digits.length then none else some (if below then -size else size)

/-- The value of a digit of any script, or of a Latin letter as a digit beyond nine. -/
def letterDigit? (character : Char) : Option Nat :=
  let code := character.toNat
  if 97 ≤ code ∧ code ≤ 122 then some (code - 87)
  else if 65 ≤ code ∧ code ≤ 90 then some (code - 55)
  else digitValue? character

/-- The value of digits to a base, if there are any and all are digits of it. -/
def inBase? (base : Nat) (digits : List Char) : Option Nat :=
  if digits = [] then none
  else
    digits.foldl (fun value digit =>
      value.bind fun value =>
        (letterDigit? digit).bind fun next =>
          if next < base then some (value * base + next) else none) (some 0)

/-- Digits to a base, with a sign, and with a zero and the letter of the base before them or
without. -/
def readInBase? (base : Nat) (letter : Char) (characters : List Char) : Option Int :=
  let (below, unsigned) := readSign (trimNumber characters)
  let digits := match unsigned with
    | '0' :: mark :: rest => if mark.toLower = letter then rest else unsigned
    | _ => unsigned
  (inBase? base digits).map fun value =>
    let size : Int := (value : Nat)
    if below then -size else size

/-- The exponent at the end of a numeral, if the text is one or is empty. -/
def readTrailingExponent? (characters : List Char) : Option Int :=
  match characters with
  | [] => some 0
  | mark :: rest =>
      if mark = 'e' ∨ mark = 'E' then
        let (below, digits) := readSign rest
        if digits.isEmpty ∨ ¬ digits.all Char.isDigit then none
        else
          let size : Int := (decimalValue digits : Nat)
          some (if below then -size else size)
      else none

/-- An unsigned numeral: digits with a point before, among or after them, and an exponent. -/
def readUnsigned? (below : Bool) (characters : List Char) : Option Binary64 :=
  let whole := characters.takeWhile Char.isDigit
  let (places, rest) := match characters.dropWhile Char.isDigit with
    | '.' :: after => (after.takeWhile Char.isDigit, after.dropWhile Char.isDigit)
    | after => ([], after)
  if whole = [] ∧ places = [] then none
  else
    (readTrailingExponent? rest).map fun exponent =>
      Binary64.ofDecimal below (decimalValue (whole ++ places)) (exponent - (places.length : Int))

/-- The text with the digits of all scripts as those of one. -/
def plainDigits (characters : List Char) : List Char :=
  characters.map fun character =>
    (digitValue? character).elim character fun value => Char.ofNat (48 + value)

/-- A number in any notation, without blanks around it. -/
def readNumeral? (text : String) : Option Binary64 :=
  let (below, unsigned) := readSign text.toList
  let word := (String.ofList unsigned).toLower
  if word = "inf" ∨ word = "infinity" then some (Binary64.infinity below)
  else if word = "nan" then some Binary64.notANumber
  else readUnsigned? below unsigned

/-- A blank that may stand around a numeral: any but the four separators. -/
def isPlainBlank (character : Char) : Bool :=
  isBlank character && !(28 ≤ character.toNat && character.toNat ≤ 31)

/-- Two underscores stand side by side. -/
def hasDoubleUnderscore : List Char → Bool
  | '_' :: '_' :: _ => true
  | _ :: rest => hasDoubleUnderscore rest
  | [] => false

/-- A text without underscores, if they stand one by one and inside it. -/
def withoutUnderscores? (text : String) : Option String :=
  let characters := text.toList
  if characters.head? = some '_' ∨ characters.getLast? = some '_' ∨
      hasDoubleUnderscore characters then none
  else some (String.ofList (characters.filter (· ≠ '_')))

/-- A number as it is read from a setting: blanks around it or underscores inside it do not
count. -/
def readSettingNumber? (text : String) : Option Binary64 :=
  let trimmed := ((text.toList.dropWhile isPlainBlank).reverse.dropWhile isPlainBlank).reverse
  (readNumeral? (String.ofList trimmed)).or ((withoutUnderscores? text).bind readNumeral?)

end TemplateBundle.Text
