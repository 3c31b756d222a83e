import TemplateBundle.Text.Printable

/-!
Contract: how a text is quoted inside a message.

Owns: the choice of quote, the short escapes, and the hexadecimal escapes of characters
that are not shown as they are.
-/

namespace TemplateBundle.Text

/-- A digit of a hexadecimal escape, in lower case. -/
def hexDigit (value : Nat) : Char :=
  if value < 10 then Char.ofNat (48 + value) else Char.ofNat (87 + value)

/-- The low hexadecimal digits of a number, as many as asked for. -/
def hexDigits : Nat → Nat → List Char
  | 0, _ => []
  | count + 1, value => hexDigits count (value / 16) ++ [hexDigit (value % 16)]

/-- A hidden character: two, four or eight digits, whichever are the first to hold it. -/
def hiddenEscape (code : Nat) : List Char :=
  if code < 0x100 then '\\' :: 'x' :: hexDigits 2 code
  else if code < 0x10000 then '\\' :: 'u' :: hexDigits 4 code
  else '\\' :: 'U' :: hexDigits 8 code

/-- The written form of one character between quotes of the given kind. -/
def quotedCharacter (quote character : Char) : List Char :=
  if character = quote then ['\\', quote]
  else if character = '\\' then ['\\', '\\']
  else if character = '\n' then ['\\', 'n']
  else if character = '\r' then ['\\', 'r']
  else if character = '\t' then ['\\', 't']
  else if isPrintable character then [character]
  else hiddenEscape character.toNat

/-- Double quotes are used only where the text holds a single quote and no double one. -/
def messageQuote (characters : List Char) : Char :=
  if characters.contains '\'' && !characters.contains '"' then '"' else '\''

/-- The text as messages quote it. -/
def quoted (text : String) : String :=
  let characters := text.toList
  let quote := messageQuote characters
  String.ofList (quote :: characters.flatMap (quotedCharacter quote) ++ [quote])

end TemplateBundle.Text
