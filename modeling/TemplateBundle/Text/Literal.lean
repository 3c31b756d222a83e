import TemplateBundle.Text.Quoted

/-!
Contract: string literals of the generated module and of exchanged documents.

Owns: double-quoted literals, either with every non-ASCII character kept or with ASCII
alone, and single-quoted literals.
-/

namespace TemplateBundle.Text

/-- Which characters a double-quoted literal keeps as they are. -/
inductive LiteralRange where
  /-- Every character from the blank on. -/
  | all
  /-- The printable ASCII characters; others are escaped as UTF-16 units. -/
  | ascii
deriving DecidableEq, Repr

/-- A UTF-16 unit as an escape of four digits. -/
def unitEscape (unit : Nat) : List Char := '\\' :: 'u' :: hexDigits 4 unit

/-- A character as one unit or as a pair of surrogates. -/
def utf16Escape (code : Nat) : List Char :=
  if code < 0x10000 then unitEscape code
  else
    unitEscape (0xD800 + (code - 0x10000) / 0x400) ++
      unitEscape (0xDC00 + (code - 0x10000) % 0x400)

/-- The written form of one character of a double-quoted literal. -/
def literalCharacter (range : LiteralRange) (character : Char) : List Char :=
  if character = '"' then ['\\', '"']
  else if character = '\\' then ['\\', '\\']
  else if character = '\n' then ['\\', 'n']
  else if character = '\r' then ['\\', 'r']
  else if character = '\t' then ['\\', 't']
  else if character = '\x08' then ['\\', 'b']
  else if character = '\x0c' then ['\\', 'f']
  else if character.toNat < 0x20 then unitEscape character.toNat
  else if range = .ascii ∧ 0x7F ≤ character.toNat then utf16Escape character.toNat
  else [character]

/-- The characters of a double-quoted literal, quotes included. -/
def literalCharacters (range : LiteralRange) (characters : List Char) : List Char :=
  '"' :: characters.flatMap (literalCharacter range) ++ ['"']

/-- A double-quoted literal that keeps every non-ASCII character. -/
def doubleQuoted (text : String) : String :=
  String.ofList (literalCharacters .all text.toList)

/-- The written form of one character of a single-quoted literal: the quote and the
backslash are protected, every other character stands as it is. -/
def singleQuotedCharacter (character : Char) : List Char :=
  if character = '\\' then ['\\', '\\']
  else if character = '\'' then ['\\', '\'']
  else [character]

/-- A single-quoted literal. -/
def singleQuoted (text : String) : String :=
  String.ofList ('\'' :: text.toList.flatMap singleQuotedCharacter ++ ['\''])

end TemplateBundle.Text
