import TemplateBundle.Yaml.Cursor
import TemplateBundle.Yaml.Refusal

/-!
Contract: the text of scalars in their four forms.

Owns: plain scalars over several lines, quoted scalars with their escapes, and block
scalars with their indentation and the treatment of their last line breaks.

A loop that follows the text is bounded by the length of what is left of it.
-/

namespace TemplateBundle.Yaml

/-- A scalar that has been read: its text, where it ends, and whether the text went on over a
line break at its end. -/
structure ScalarText where
  content : List Char
  cursor : Cursor
  brokeLine : Bool

/-! ## Plain scalars -/

/-- A character ends a plain scalar, given the one after it. Within brackets more do. -/
def endsPlain (inFlow : Bool) (character next : Char) : Bool :=
  isGap character ||
    (character = ':' && (isGap next || (inFlow && ",[]\x7b\x7d".toList.contains next))) ||
    (inFlow && ",?[]\x7b\x7d".toList.contains character)

/-- The run of a plain scalar's characters. -/
def plainRun (inFlow : Bool) : List Char → List Char
  | [] => []
  | character :: rest =>
      if endsPlain inFlow character (rest.head?.getD endMark) then []
      else character :: plainRun inFlow rest

/-- Spaces and further line breaks after a first one. None if the next document begins. -/
def plainBreaks : Nat → List Char → Cursor → Option (List Char) × Cursor
  | 0, breaks, cursor => (some breaks, cursor)
  | fuel + 1, breaks, cursor =>
      if cursor.head = ' ' then plainBreaks fuel breaks cursor.step
      else if isBreak cursor.head then
        let (taken, after) := cursor.takeBreak
        if after.atSeparator then (none, after) else plainBreaks fuel (breaks ++ taken) after
      else (some breaks, cursor)

/-- What stands for the blanks inside a plain scalar: spaces on a line, or a folded break. No
text if the scalar does not go on. -/
def plainSpaces (cursor : Cursor) : ScalarText :=
  let (spaces, cursor) := cursor.takeWhile (· = ' ')
  if isBreak cursor.head then
    let (first, cursor) := cursor.takeBreak
    if cursor.atSeparator then ⟨[], cursor, true⟩
    else
      match plainBreaks cursor.rest.length [] cursor with
      | (none, cursor) => ⟨[], cursor, true⟩
      | (some breaks, cursor) =>
          let folded := if first ≠ ['\n'] then first else if breaks = [] then [' '] else []
          ⟨folded ++ breaks, cursor, true⟩
  else ⟨spaces, cursor, false⟩

/-- The rest of a plain scalar, after some text and the blanks before what follows. -/
def plainRest (inFlow : Bool) (indent : Int) : Nat → ScalarText → List Char → ScalarText
  | 0, text, _ => text
  | fuel + 1, text, spaces =>
      let run := if text.cursor.head = '#' then [] else plainRun inFlow text.cursor.rest
      if run = [] then text
      else
        let blanks := plainSpaces (Cursor.advance run.length text.cursor)
        let next : ScalarText := ⟨text.content ++ spaces ++ run, blanks.cursor, blanks.brokeLine⟩
        if blanks.content = [] ∨ next.cursor.head = '#' ∨
            (inFlow = false ∧ (next.cursor.column : Int) < indent) then next
        else plainRest inFlow indent fuel next blanks.content

/-- A plain scalar. Outside brackets its lines stand at least at an indent. -/
def readPlain (inFlow : Bool) (indent : Int) (cursor : Cursor) : ScalarText :=
  plainRest inFlow indent (cursor.rest.length + 1) ⟨[], cursor, false⟩ []

/-! ## Quoted scalars -/

/-- The value of a hexadecimal digit. -/
def hexValue? (character : Char) : Option Nat :=
  let code := character.toNat
  if 48 ≤ code ∧ code ≤ 57 then some (code - 48)
  else if 97 ≤ code ∧ code ≤ 102 then some (code - 87)
  else if 65 ≤ code ∧ code ≤ 70 then some (code - 55)
  else none

/-- The value of exactly so many hexadecimal digits. -/
def hexNumber? : Nat → Nat → List Char → Option Nat
  | 0, value, _ => some value
  | _ + 1, _, [] => none
  | count + 1, value, character :: rest =>
      (hexValue? character).bind fun digit => hexNumber? count (value * 16 + digit) rest

/-- The character that an escape of one letter stands for. -/
def shortEscape? : Char → Option Char
  | '0' => some '\x00'
  | 'a' => some '\x07'
  | 'b' => some '\x08'
  | 't' => some '\t'
  | '\t' => some '\t'
  | 'n' => some '\n'
  | 'v' => some '\x0b'
  | 'f' => some '\x0c'
  | 'r' => some '\r'
  | 'e' => some '\x1b'
  | ' ' => some ' '
  | '"' => some '"'
  | '\\' => some '\\'
  | '/' => some '/'
  | 'N' => some '\u0085'
  | '_' => some '\u00a0'
  | 'L' => some '\u2028'
  | 'P' => some '\u2029'
  | _ => none

/-- The number of digits of an escape by code. -/
def escapeDigits? : Char → Option Nat
  | 'x' => some 2
  | 'u' => some 4
  | 'U' => some 8
  | _ => none

/-- The greatest code of a character that is looked up at all. -/
def codeLimit : Nat := 0x7FFFFFFF

/-- The character of a code. A surrogate is none, and is replaced. -/
def escapedCharacter (code : Nat) : Except Refusal Char :=
  if codeLimit < code then .error .tooGreat
  else if 0x110000 ≤ code then .error .valueless
  else if 0xD800 ≤ code ∧ code < 0xE000 then .ok '\ufffd'
  else .ok (Char.ofNat code)

/-- The character of two surrogates that are escaped one after the other. -/
def pairedCharacter? (code : Nat) (following : List Char) : Option Char :=
  match following with
  | '\\' :: 'u' :: digits =>
      (hexNumber? 4 0 digits).bind fun low =>
        if 0xD800 ≤ code ∧ code < 0xDC00 ∧ 0xDC00 ≤ low ∧ low < 0xE000 then
          some (Char.ofNat (0x10000 + (code - 0xD800) * 0x400 + (low - 0xDC00)))
        else none
  | _ => none

/-- The number of characters of an escape by four digits. -/
def fourDigitEscape : Nat := 6

/-- The line breaks between the lines of a quoted scalar, and the blanks around them. -/
def quotedBreaks : Nat → List Char → Cursor → Except Refusal (List Char × Cursor)
  | 0, _, _ => .error .malformed
  | fuel + 1, breaks, cursor =>
      if cursor.atSeparator then .error .malformed
      else
        let cursor := cursor.skipWhile fun character => character = ' ' || character = '\t'
        if isBreak cursor.head then
          let (taken, after) := cursor.takeBreak
          quotedBreaks fuel (breaks ++ taken) after
        else .ok (breaks, cursor)

/-- The text of a quoted scalar up to its closing quote. -/
def quotedRest (quote : Char) : Nat → List Char → Cursor → Except Refusal (List Char × Cursor)
  | 0, _, _ => .error .malformed
  | fuel + 1, content, cursor =>
      let character := cursor.head
      if character = endMark then .error .malformed
      else if quote = '\'' ∧ character = '\'' ∧ cursor.peek 1 = '\'' then
        quotedRest quote fuel (content ++ ['\'']) (Cursor.advance 2 cursor)
      else if character = quote then .ok (content, cursor.step)
      else if quote = '"' ∧ character = '\\' then
        let escape := cursor.peek 1
        match shortEscape? escape with
        | some meant => quotedRest quote fuel (content ++ [meant]) (Cursor.advance 2 cursor)
        | none =>
            match escapeDigits? escape with
            | some count =>
                match hexNumber? count 0 (cursor.rest.drop 2) with
                | none => .error .malformed
                | some code =>
                    let after := Cursor.advance (2 + count) cursor
                    match pairedCharacter? code after.rest with
                    | some meant =>
                        quotedRest quote fuel (content ++ [meant])
                          (Cursor.advance fourDigitEscape after)
                    | none => do
                        let meant ← escapedCharacter code
                        quotedRest quote fuel (content ++ [meant]) after
            | none =>
                if isBreak escape then do
                  let after := cursor.step.takeBreak.2
                  let (breaks, after) ← quotedBreaks (after.rest.length + 1) [] after
                  quotedRest quote fuel (content ++ breaks) after
                else .error .malformed
      else if character = ' ' ∨ character = '\t' ∨ isBreak character then do
        let (blanks, after) := cursor.takeWhile fun next => next = ' ' || next = '\t'
        if after.head = endMark then .error .malformed
        else if isBreak after.head then
          let (first, after) := after.takeBreak
          let (breaks, after) ← quotedBreaks (after.rest.length + 1) [] after
          let folded := if first ≠ ['\n'] then first else if breaks = [] then [' '] else []
          quotedRest quote fuel (content ++ folded ++ breaks) after
        else quotedRest quote fuel (content ++ blanks) after
      else quotedRest quote fuel (content ++ [character]) cursor.step

/-- A quoted scalar, from its opening quote. -/
def readQuoted (cursor : Cursor) : Except Refusal (List Char × Cursor) :=
  quotedRest cursor.head (cursor.rest.length + 1) [] cursor.step

/-! ## Block scalars -/

/-- What becomes of the line breaks at the end of a block scalar. -/
inductive Chomping where
  | strip
  | clip
  | keep
deriving DecidableEq

/-- The marks after the sign of a block scalar: the treatment of its end and the extra
indentation, in either order. -/
def readHeader (cursor : Cursor) : Except Refusal (Chomping × Option Nat × Cursor) :=
  let chomping? (character : Char) : Option Chomping :=
    if character = '+' then some .keep else if character = '-' then some .strip else none
  let digit? (character : Char) : Option Nat :=
    if character.isDigit then some (character.toNat - 48) else none
  let (chomping, increment, cursor) :=
    match chomping? cursor.head with
    | some chomping =>
        match digit? cursor.step.head with
        | some increment => (chomping, some increment, Cursor.advance 2 cursor)
        | none => (chomping, none, cursor.step)
    | none =>
        match digit? cursor.head with
        | some increment =>
            match chomping? cursor.step.head with
            | some chomping => (chomping, some increment, Cursor.advance 2 cursor)
            | none => (Chomping.clip, some increment, cursor.step)
        | none => (.clip, none, cursor)
  if increment = some 0 ∨ ¬ isSpaceOrEnd cursor.head then .error .malformed
  else .ok (chomping, increment, cursor)

/-- The empty lines before a block scalar, and the greatest indentation among them. -/
def leadingLines : Nat → List Char → Nat → Cursor → List Char × Nat × Cursor
  | 0, breaks, deepest, cursor => (breaks, deepest, cursor)
  | fuel + 1, breaks, deepest, cursor =>
      if cursor.head = ' ' then
        leadingLines fuel breaks (max deepest cursor.step.column) cursor.step
      else if isBreak cursor.head then
        let (taken, after) := cursor.takeBreak
        leadingLines fuel (breaks ++ taken) deepest after
      else (breaks, deepest, cursor)

/-- The cursor after the spaces of the indentation. -/
def skipIndent (indent : Nat) : Nat → Cursor → Cursor
  | 0, cursor => cursor
  | fuel + 1, cursor =>
      if cursor.column < indent ∧ cursor.head = ' ' then skipIndent indent fuel cursor.step
      else cursor

/-- The empty lines inside a block scalar. -/
def emptyLines (indent : Nat) : Nat → List Char → Cursor → List Char × Cursor
  | 0, breaks, cursor => (breaks, cursor)
  | fuel + 1, breaks, cursor =>
      let cursor := skipIndent indent indent cursor
      if isBreak cursor.head then
        let (taken, after) := cursor.takeBreak
        emptyLines indent fuel (breaks ++ taken) after
      else (breaks, cursor)

/-- The character is a space or a tab. -/
def isSpaceOrTab (character : Char) : Bool := character = ' ' || character = '\t'

/-- The lines of a block scalar: its text, the break after its last line, the empty lines
after that, and the cursor. -/
def blockLines (folded : Bool) (indent : Nat) : Nat → List Char → List Char → Cursor →
    List Char × List Char × List Char × Cursor
  | 0, content, breaks, cursor => (content, [], breaks, cursor)
  | fuel + 1, content, breaks, cursor =>
      let indented := isSpaceOrTab cursor.head
      let (line, cursor) := cursor.takeWhile (!isLineEnd ·)
      let (lineBreak, cursor) := cursor.takeBreak
      let content := content ++ breaks ++ line
      let (following, cursor) := emptyLines indent (cursor.rest.length + 1) [] cursor
      if cursor.column = indent ∧ cursor.head ≠ endMark then
        let joint :=
          if folded ∧ lineBreak = ['\n'] ∧ ¬ indented ∧ ¬ isSpaceOrTab cursor.head then
            if following = [] then [' '] else []
          else lineBreak
        blockLines folded indent fuel (content ++ joint) following cursor
      else (content, lineBreak, following, cursor)

/-- A block scalar, from its sign, below a level of indentation. -/
def readBlock (level : Int) (cursor : Cursor) : Except Refusal (List Char × Cursor) := do
  let folded := cursor.head = '>'
  let (chomping, increment, cursor) ← readHeader cursor.step
  match cursor.finishLine? with
  | none => .error .malformed
  | some cursor =>
      let least := (max (level + 1) 1).toNat
      let room := cursor.rest.length + 1
      let (breaks, indent, cursor) :=
        match increment with
        | none =>
            let (breaks, deepest, cursor) := leadingLines room [] 0 cursor
            (breaks, max least deepest, cursor)
        | some increment =>
            let indent := least + increment - 1
            let (breaks, cursor) := emptyLines indent room [] cursor
            (breaks, indent, cursor)
      let (content, lineBreak, trailing, cursor) :=
        if cursor.column = indent ∧ cursor.head ≠ endMark then
          blockLines folded indent room [] breaks cursor
        else ([], [], breaks, cursor)
      .ok <| match chomping with
        | .strip => (content, cursor)
        | .clip => (content ++ lineBreak, cursor)
        | .keep => (content ++ lineBreak ++ trailing, cursor)

end TemplateBundle.Yaml
