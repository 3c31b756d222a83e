/-!
Contract: text without the sequences that steer a terminal.

Owns: what such a sequence is (an escape, an opening bracket, parameters and one letter) and the
text that is left without them.
-/

namespace TemplateBundle.Text

/-- The character that a control sequence starts with. -/
def escapeMark : Char := '\x1b'

/-- The character may stand between the bracket and the letter of a control sequence. -/
def isSequenceParameter (character : Char) : Bool :=
  character.isDigit || character = ';' || character = '?'

/-- The length of the control sequence at the start of a text, zero if there is none. -/
def sequenceLength : List Char → Nat
  | mark :: '[' :: rest =>
      if mark = escapeMark then
        let parameters := rest.takeWhile isSequenceParameter
        match rest.dropWhile isSequenceParameter with
        | last :: _ => if last.isAlpha then parameters.length + 3 else 0
        | [] => 0
      else 0
  | _ => 0

/-- The text after some characters, without its control sequences. -/
def dropSequences : Nat → List Char → List Char
  | _, [] => []
  | skipped + 1, _ :: rest => dropSequences skipped rest
  | 0, character :: rest =>
      match sequenceLength (character :: rest) with
      | 0 => character :: dropSequences 0 rest
      | length + 1 => dropSequences length rest

/-- A text without its control sequences. -/
def withoutControlSequences (text : String) : String :=
  String.ofList (dropSequences 0 text.toList)

end TemplateBundle.Text
