import TemplateBundle.Text.Numeral
import TemplateBundle.Text.Split
import TemplateBundle.Value.Basic
import TemplateBundle.Yaml.ScalarText

/-!
Contract: what kind of value a scalar is, and the value.

Owns: the forms by which a plain scalar is taken for null, a boolean, a number or a date, and
the value of a scalar of each kind.
-/

namespace TemplateBundle.Yaml

open TemplateBundle.Decimal

/-- The kind of a node. -/
inductive Kind where
  | null
  | boolean
  | integer
  | float
  | timestamp
  | text
  | sequence
  | mapping
  /-- The key that merges other mappings. -/
  | merge
  /-- The key of a mapping's own value. -/
  | own
  | unknown
deriving DecidableEq, Repr

/-- The start of the tags of the common kinds. -/
def commonTags : String := "tag:yaml.org,2002:"

/-- The kind that a tag names. -/
def Kind.ofTag (tag : String) : Kind :=
  if tag = commonTags ++ "null" then .null
  else if tag = commonTags ++ "bool" then .boolean
  else if tag = commonTags ++ "int" then .integer
  else if tag = commonTags ++ "float" then .float
  else if tag = commonTags ++ "timestamp" then .timestamp
  else if tag = commonTags ++ "str" then .text
  else if tag = commonTags ++ "seq" then .sequence
  else if tag = commonTags ++ "map" then .mapping
  else if tag = commonTags ++ "merge" then .merge
  else if tag = commonTags ++ "value" then .own
  else .unknown

/-! ## Forms -/

/-- The words for true. -/
def trueWords : List String :=
  ["yes", "Yes", "YES", "true", "True", "TRUE", "on", "On", "ON"]

/-- The words for false. -/
def falseWords : List String :=
  ["no", "No", "NO", "false", "False", "FALSE", "off", "Off", "OFF"]

/-- The words for null. -/
def nullWords : List String := ["", "~", "null", "Null", "NULL"]

/-- The text without its sign. -/
def unsigned (characters : List Char) : List Char :=
  match characters with
  | '-' :: rest => rest
  | '+' :: rest => rest
  | rest => rest

/-- A digit or an underscore. -/
def isSpacedDigit (character : Char) : Bool := character.isDigit || character = '_'

/-- Parts of sixty, each after a colon, up to what follows the last. At least one. -/
def sixtieths? : Nat → List Char → Option (List Char)
  | 0, _ => none
  | fuel + 1, ':' :: first :: second :: rest =>
      let after? : Option (List Char) :=
        if '0' ≤ first ∧ first ≤ '5' ∧ second.isDigit then some rest
        else if first.isDigit then some (second :: rest)
        else none
      after?.bind fun after =>
        if after.head? = some ':' then sixtieths? fuel after else some after
  | _, [':', first] => if first.isDigit then some [] else none
  | _, _ => none

/-- An integer to the base of sixty, after its sign. -/
def isSexagesimal (characters : List Char) : Bool :=
  match characters with
  | first :: rest =>
      '1' ≤ first && first ≤ '9' &&
        sixtieths? (rest.length + 1) (rest.dropWhile isSpacedDigit) == some []
  | [] => false

/-- The form of an integer: binary, octal, decimal, hexadecimal, or to the base of sixty. -/
def isInteger (characters : List Char) : Bool :=
  let digits := unsigned characters
  match digits with
  | ['0'] => true
  | '0' :: 'b' :: first :: rest =>
      (first :: rest).all fun digit => digit = '0' || digit = '1' || digit = '_'
  | '0' :: 'x' :: first :: rest =>
      (first :: rest).all fun digit => (hexValue? digit).isSome || digit = '_'
  | '0' :: rest => rest.all fun digit => ('0' ≤ digit && digit ≤ '7') || digit = '_'
  | first :: rest => ('1' ≤ first && first ≤ '9' && rest.all isSpacedDigit) || isSexagesimal digits
  | [] => false

/-- An exponent with its sign, or nothing. -/
def isExponent (characters : List Char) : Bool :=
  match characters with
  | [] => true
  | mark :: sign :: first :: rest =>
      (mark = 'e' || mark = 'E') && (sign = '-' || sign = '+') && (first :: rest).all Char.isDigit
  | _ => false

/-- A number with a point: digits before it, or at least one digit after it. -/
def isPointed (characters : List Char) : Bool :=
  let digits := unsigned characters
  match digits with
  | '.' :: first :: rest =>
      -- A number that starts with its point has no sign.
      digits = characters && first.isDigit && isExponent (rest.dropWhile isSpacedDigit)
  | first :: rest =>
      first.isDigit &&
        match rest.dropWhile isSpacedDigit with
        | '.' :: after => isExponent (after.dropWhile isSpacedDigit)
        | _ => false
  | [] => false

/-- A number with a point to the base of sixty. -/
def isPointedSexagesimal (characters : List Char) : Bool :=
  match unsigned characters with
  | first :: rest =>
      first.isDigit &&
        match sixtieths? (rest.length + 1) (rest.dropWhile isSpacedDigit) with
        | some ('.' :: after) => after.all isSpacedDigit
        | _ => false
  | [] => false

/-- The names of infinity. -/
def infinityWords : List String := [".inf", ".Inf", ".INF"]

/-- The names of what is no number. -/
def notANumberWords : List String := [".nan", ".NaN", ".NAN"]

/-- The form of a number that is not whole. -/
def isFloat (characters : List Char) : Bool :=
  isPointed characters || isPointedSexagesimal characters ||
    infinityWords.contains (String.ofList (unsigned characters)) ||
    notANumberWords.contains (String.ofList characters)

/-- The value of exactly so many digits, and what follows them. -/
def fixedDigits? (count : Nat) (characters : List Char) : Option (Nat × List Char) :=
  let digits := characters.take count
  if digits.length = count ∧ digits.all Char.isDigit then
    some (Text.decimalValue digits, characters.drop count)
  else none

/-- The value of one or two digits, and what follows them. -/
def oneOrTwoDigits? (characters : List Char) : Option (Nat × List Char) :=
  (fixedDigits? 2 characters).or (fixedDigits? 1 characters)

/-- What follows a character that has to stand at the start. -/
def after? (character : Char) : List Char → Option (List Char)
  | first :: rest => if first = character then some rest else none
  | [] => none

/-- The distance from universal time at the end of a time. -/
def readOffset? (characters : List Char) : Option (Option Int) :=
  match characters.dropWhile isSpaceOrTab with
  | [] => if characters = [] then some none else none
  | ['Z'] => some (some 0)
  | sign :: rest =>
      if sign = '-' ∨ sign = '+' then do
        let (hours, rest) ← oneOrTwoDigits? rest
        let minutes ← match rest with
          | [] => some 0
          | ':' :: rest => do
              let (minutes, last) ← fixedDigits? 2 rest
              if last = [] then some minutes else none
          | _ => none
        let distance : Int := (hours * 60 + minutes : Nat)
        some (some (if sign = '-' then -distance else distance))
      else none

/-- The number of millionths that the digits after a point stand for. Further digits do not
count. -/
def millionths (digits : List Char) : Nat :=
  Text.decimalValue ((digits ++ List.replicate 6 '0').take 6)

/-- The time of day after a date. -/
def readClock? (characters : List Char) : Option Clock := do
  let rest ← match characters with
    | [] => none
    | first :: rest =>
        if first = 'T' ∨ first = 't' then some rest
        else if isSpaceOrTab first then some (rest.dropWhile isSpaceOrTab)
        else none
  let (hour, rest) ← oneOrTwoDigits? rest
  let (minute, rest) ← fixedDigits? 2 (← after? ':' rest)
  let (second, rest) ← fixedDigits? 2 (← after? ':' rest)
  let (fraction, rest) := match rest with
    | '.' :: after => (after.takeWhile Char.isDigit, after.dropWhile Char.isDigit)
    | _ => ([], rest)
  let offset ← readOffset? rest
  some ⟨hour, minute, second, millionths fraction, offset⟩

/-- A date, alone or with a time of day. -/
def readTime? (characters : List Char) : Option Moment := do
  let (year, rest) ← fixedDigits? 4 characters
  let (month, rest) ← oneOrTwoDigits? (← after? '-' rest)
  let (day, rest) ← oneOrTwoDigits? (← after? '-' rest)
  if rest = [] then some ⟨year, month, day, none⟩
  else (readClock? rest).map fun clock => ⟨year, month, day, some clock⟩

/-- The length of a date with two digits for month and day. -/
def dateLength : Nat := 10

/-- The form of a date. On its own it has two digits for month and day; with a time one is
enough. -/
def isTime (characters : List Char) : Bool :=
  (readTime? characters).any fun moment =>
    moment.clock.isSome || characters.length = dateLength

/-- The signs of the notation that stand for no value. -/
def bareSigns : List String := ["!", "&", "*"]

/-- The kind that a plain scalar is taken for. -/
def Kind.ofPlain (content : String) : Kind :=
  let characters := content.toList
  if trueWords.contains content || falseWords.contains content then .boolean
  else if isFloat characters then .float
  else if isInteger characters then .integer
  else if content = "<<" then .merge
  else if nullWords.contains content then .null
  else if isTime characters then .timestamp
  else if content = "=" then .own
  else if bareSigns.contains content then .unknown
  else .text

/-! ## Values -/

/-- A text without its underscores. -/
def withoutUnderscores (characters : List Char) : List Char := characters.filter (· ≠ '_')

/-- The value of parts to the base of sixty, the first part the greatest. -/
def sexagesimalValue? (parts : List (List Char)) : Option Int := do
  let numbers ← parts.mapM Text.wholeNumber?
  some (numbers.foldl (fun value number => value * 60 + number) 0)

/-- The value of an integer after its sign and without underscores. -/
def magnitudeOf? (digits : List Char) : Option Int :=
  match digits with
  | ['0'] => some 0
  | '0' :: 'b' :: rest => Text.readInBase? 2 'b' rest
  | '0' :: 'x' :: rest => Text.readInBase? 16 'x' rest
  | '0' :: _ => Text.readInBase? 8 'o' digits
  | _ =>
      if digits.contains ':' then sexagesimalValue? (Text.splitAtEach ':' digits)
      else Text.wholeNumber? digits

/-- The value of an integer. -/
def integerValue (content : String) : Except Refusal Value :=
  let characters := withoutUnderscores content.toList
  let digits := unsigned characters
  if digits = [] then .error .emptyScalar
  else
    match magnitudeOf? digits with
    | none => .error .valueless
    | some magnitude => .ok (.int (if characters.head? = some '-' then -magnitude else magnitude))

/-- The value of a number that need not be whole. -/
def floatOf? (characters : List Char) : Option Binary64 :=
  Text.readNumeral? (String.ofList (Text.plainDigits (Text.trimNumber characters)))

/-- The sum of parts to the base of sixty, the last part first and each step rounded. -/
def sumSixtieths : Binary64 → Nat → List Binary64 → Except Refusal Binary64
  | sum, _, [] => .ok sum
  | sum, unit, part :: higher =>
      let factor := Binary64.ofInt (unit : Int)
      if factor.isInfinite then .error .tooGreat
      else sumSixtieths (sum.add (part.multiply factor)) (unit * 60) higher

/-- The value of a number to the base of sixty, the first part the greatest. -/
def pointedSexagesimal (parts : List (List Char)) : Except Refusal Binary64 :=
  match parts.mapM floatOf? with
  | some numbers => sumSixtieths (Binary64.ofInt 0) 1 numbers.reverse
  | none => .error .valueless

/-- The value of a number with a point. -/
def floatValue (content : String) : Except Refusal Value := do
  let characters := (withoutUnderscores content.toList).map Char.toLower
  let digits := unsigned characters
  let below := characters.head? = some '-'
  if characters = [] then .error .emptyScalar
  else if digits = ".inf".toList then .ok (.real (Binary64.infinity below))
  else if digits = ".nan".toList then .ok (.real Binary64.notANumber)
  else
    let number ←
      if digits.contains ':' then pointedSexagesimal (Text.splitAtEach ':' digits)
      else
        match floatOf? digits with
        | some number => .ok number
        | none => .error .valueless
    .ok (.real (if below then number.opposite else number))

/-- The value of a scalar of a kind. -/
def scalarValue (kind : Kind) (content : String) : Except Refusal Value :=
  match kind with
  | .null => .ok .null
  | .boolean =>
      let word := content.toLower
      if trueWords.contains word then .ok (.bool true)
      else if falseWords.contains word then .ok (.bool false)
      else .error .unknownWord
  | .integer => integerValue content
  | .float => floatValue content
  | .timestamp =>
      match readTime? content.toList with
      | some time => if time.isValid then .ok (.moment time) else .error .valueless
      | none => .error .formless
  | .text => .ok (.text content)
  | _ => .error .malformed

end TemplateBundle.Yaml
