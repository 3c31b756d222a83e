/-!
Contract: text cut at a separator, and put together again.

Owns: the one cut that paths, names and environments are read with.
-/

namespace TemplateBundle.Text

/-- The pieces between the separators. There is always at least one piece. -/
def splitAtEach (separator : Char) : List Char → List (List Char)
  | [] => [[]]
  | character :: rest =>
      if character = separator then [] :: splitAtEach separator rest
      else
        match splitAtEach separator rest with
        | [] => [[character]]
        | piece :: pieces => (character :: piece) :: pieces

/-- The pieces of a string between the separators. -/
def pieces (separator : Char) (text : String) : List String :=
  (splitAtEach separator text.toList).map String.ofList

/-- The text before the first separator and the text after it. -/
def cutAtFirst? (separator : Char) (text : String) : Option (String × String) :=
  let before := text.toList.takeWhile (· ≠ separator)
  match text.toList.dropWhile (· ≠ separator) with
  | [] => none
  | _ :: after => some (String.ofList before, String.ofList after)

/-- The text before the last separator and the text after it. -/
def cutAtLast? (separator : Char) (text : String) : Option (String × String) :=
  let reversed := text.toList.reverse
  let after := reversed.takeWhile (· ≠ separator)
  match reversed.dropWhile (· ≠ separator) with
  | [] => none
  | _ :: before => some (String.ofList before.reverse, String.ofList after.reverse)

end TemplateBundle.Text
