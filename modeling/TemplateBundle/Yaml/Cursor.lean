/-!
Contract: a place in the text of a YAML document.

Owns: the classes of characters that the notation knows, and the cursor, which counts
characters, lines and columns as it goes.
-/

namespace TemplateBundle.Yaml

/-- The character that stands for the end of the text. No document holds it. -/
def endMark : Char := '\x00'

/-- The character ends a line. -/
def isBreak (character : Char) : Bool :=
  character = '\n' || character = '\u0085' || character = '\u2028' || character = '\u2029'

/-- The character ends a line or the text. -/
def isLineEnd (character : Char) : Bool := character = endMark || isBreak character

/-- The character is a space or ends a line or the text. -/
def isSpaceOrEnd (character : Char) : Bool := character = ' ' || isLineEnd character

/-- The character is a space or a tab, or ends a line or the text. -/
def isGap (character : Char) : Bool := character = '\t' || isSpaceOrEnd character

/-- The character may stand in a name: a letter, a digit, a hyphen or an underscore. -/
def isNameCharacter (character : Char) : Bool :=
  character.isAlphanum || character = '-' || character = '_'

/-- The character may stand in a document at all. -/
def isAllowed (character : Char) : Bool :=
  let code := character.toNat
  code = 0x09 || code = 0x0A || code = 0x0D || (0x20 ≤ code && code ≤ 0x7E) || code = 0x85 ||
    (0xA0 ≤ code && code ≤ 0xD7FF) || (0xE000 ≤ code && code ≤ 0xFFFD) || 0x10000 ≤ code

/-- The mark of byte order. It takes no column. -/
def byteOrderMark : Char := '\ufeff'

/-- A place in a text: what follows it, and how many characters, lines, and characters of the
line come before it. -/
structure Cursor where
  rest : List Char
  index : Nat
  line : Nat
  column : Nat

namespace Cursor

/-- The start of a text. -/
def ofText (characters : List Char) : Cursor := ⟨characters, 0, 0, 0⟩

/-- The character at the cursor, or the end mark. -/
def head (cursor : Cursor) : Char := cursor.rest.head?.getD endMark

/-- The character some places after the cursor, or the end mark. -/
def peek (cursor : Cursor) (count : Nat) : Char := cursor.rest[count]?.getD endMark

/-- The cursor after one character. -/
def step (cursor : Cursor) : Cursor :=
  match cursor.rest with
  | [] => cursor
  | character :: rest =>
      if isBreak character then ⟨rest, cursor.index + 1, cursor.line + 1, 0⟩
      else if character = byteOrderMark then
        { cursor with rest, index := cursor.index + 1 }
      else { cursor with rest, index := cursor.index + 1, column := cursor.column + 1 }

/-- The cursor after some characters. -/
def advance : Nat → Cursor → Cursor
  | 0, cursor => cursor
  | count + 1, cursor => advance count cursor.step

/-- The characters up to the first that is not of a class, and the cursor after them. -/
def takeWhile (cursor : Cursor) (accepts : Char → Bool) : List Char × Cursor :=
  let taken := cursor.rest.takeWhile accepts
  (taken, advance taken.length cursor)

/-- The cursor after the characters of a class. -/
def skipWhile (cursor : Cursor) (accepts : Char → Bool) : Cursor :=
  (cursor.takeWhile accepts).2

/-- The cursor after the spaces. -/
def skipSpaces (cursor : Cursor) : Cursor := cursor.skipWhile (· = ' ')

/-- The line break at the cursor, if there is one, and the cursor after it. The two common
breaks are one; the separators of lines and paragraphs stay themselves. -/
def takeBreak (cursor : Cursor) : List Char × Cursor :=
  let character := cursor.head
  if character = '\n' ∨ character = '\u0085' then (['\n'], cursor.step)
  else if isBreak character then ([character], cursor.step)
  else ([], cursor)

/-- Three equal characters and a gap stand at the cursor. -/
def atTriple (cursor : Cursor) (character : Char) : Bool :=
  cursor.head = character && cursor.peek 1 = character && cursor.peek 2 = character &&
    isGap (cursor.peek 3)

/-- A mark between documents stands at the cursor. -/
def atSeparator (cursor : Cursor) : Bool := cursor.atTriple '-' || cursor.atTriple '.'

/-- The cursor at the end of the line, if nothing but spaces and a remark is left on it, and
then after its break. -/
def finishLine? (cursor : Cursor) : Option Cursor :=
  let cursor := cursor.skipSpaces
  let cursor := if cursor.head = '#' then cursor.skipWhile (!isLineEnd ·) else cursor
  if isLineEnd cursor.head then some cursor.takeBreak.2 else none

end Cursor

end TemplateBundle.Yaml
