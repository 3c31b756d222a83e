import TemplateBundle.Text.Ranges

/-!
Contract: blank characters, and text without the blanks at its ends.

Owns: the set of blanks (the Unicode white space and the four separators U+001C to
U+001F) and trimming. Zero-width characters are no blanks.
-/

namespace TemplateBundle.Text

/-- The blank characters, as ranges. -/
def blankRanges : List (Nat × Nat) :=
  [(9, 13), (28, 32), (133, 133), (160, 160), (5760, 5760), (8192, 8202), (8232, 8233),
    (8239, 8239), (8287, 8287), (12288, 12288)]

/-- The character is blank. -/
def isBlank (character : Char) : Bool := inRanges blankRanges character.toNat

/-- The text without its leading blanks. -/
def trimStart (characters : List Char) : List Char := characters.dropWhile isBlank

/-- The text without its trailing blanks. -/
def trimEnd (characters : List Char) : List Char :=
  (characters.reverse.dropWhile isBlank).reverse

/-- The text without the blanks at both ends. -/
def trim (characters : List Char) : List Char := trimEnd (trimStart characters)

/-- The string without the blanks at both ends. -/
def strip (text : String) : String := String.ofList (trim text.toList)

/-- The string holds nothing but blanks. -/
def isBlankText (text : String) : Bool := text.toList.all isBlank

end TemplateBundle.Text
