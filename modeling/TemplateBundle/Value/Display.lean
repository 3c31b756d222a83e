import TemplateBundle.Text.Quoted
import TemplateBundle.Value.Basic

/-!
Contract: values as messages show them.

Owns: the quoted form, in which text stands between quotes, and the plain form, in which
a text is itself.
-/

namespace TemplateBundle.Value

/-- The form of a value that is no list and no map. -/
def quotedLeaf : Value → String
  | .null => "None"
  | .bool true => "True"
  | .bool false => "False"
  | .int number => toString number
  | .real number => Decimal.messageLayout.render number
  | .text content => Text.quoted content
  | .moment time => time.quotedForm
  | .list _ => "[]"
  | .map _ => "\x7b\x7d"
  | .callable function => "<function " ++ function.name ++ ">"

mutual

/-- The form of a value inside a message, with text in quotes. -/
def quotedForm : Value → String
  | .list items => "[" ++ String.intercalate ", " (quotedItems items) ++ "]"
  | .map entries => "\x7b" ++ String.intercalate ", " (quotedEntries entries) ++ "\x7d"
  | value => quotedLeaf value

/-- The quoted forms of the items of a list. -/
def quotedItems : List Value → List String
  | [] => []
  | item :: rest => quotedForm item :: quotedItems rest

/-- The quoted forms of the entries of a map. -/
def quotedEntries : List (Value × Value) → List String
  | [] => []
  | (key, value) :: rest =>
      (quotedForm key ++ ": " ++ quotedForm value) :: quotedEntries rest

end

/-- The form of a value on its own: a text or a moment is shown as it is written. -/
def plainForm : Value → String
  | .text content => content
  | .moment time => time.text
  | value => quotedForm value

end TemplateBundle.Value
