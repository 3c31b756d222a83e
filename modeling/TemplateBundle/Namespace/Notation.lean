import TemplateBundle.Failure
import TemplateBundle.Text.Blank
import TemplateBundle.Text.Literal

/-!
Contract: namespace paths as they are given, and as the generated module writes them.

Owns: the chunks of a path text (plain runs and bracketed segments), the rule by which
chunks become segments, and the bracket form `this["A"]["B"]`.

Does not own: which namespaces are declared already (`Namespace.Registry`).
-/

namespace TemplateBundle.Namespace

open TemplateBundle.Text

/-- A piece of a path text. -/
inductive Chunk where
  /-- A run without dots and brackets. -/
  | plain (run : List Char)
  /-- What a pair of brackets holds, without the quotes and blanks around it. -/
  | bracketed (content : List Char)
  /-- A dot or a bracket that belongs to neither. -/
  | stray (character : Char)
deriving DecidableEq, Repr

/-- The character has a meaning between segments. -/
def isMark (character : Char) : Bool :=
  character = '.' || character = '[' || character = ']'

/-- Blanks and then a closing bracket: how many characters they are. -/
def closing? (characters : List Char) : Option Nat :=
  match characters.dropWhile isBlank with
  | ']' :: _ => some ((characters.takeWhile isBlank).length + 1)
  | _ => none

/-- The closing of a bracketed segment: its quote, if it has one, blanks, and the bracket. -/
def segmentEnd? (quote : Option Char) (characters : List Char) : Option Nat :=
  match quote with
  | none => closing? characters
  | some mark =>
      match characters with
      | [] => none
      | character :: rest => if character = mark then (closing? rest).map (· + 1) else none

/-- The shortest content on one line that is followed by the closing, and the number of
characters up to the end of the closing. -/
def content? (quote : Option Char) : List Char → Option (List Char × Nat)
  | [] => none
  | character :: rest =>
      match segmentEnd? quote (character :: rest) with
      | some size => some ([], size)
      | none =>
          if character = '\n' then none
          else (content? quote rest).map fun found => (character :: found.1, found.2 + 1)

/-- The quote that a bracketed segment seems to open with. -/
def openingQuote? : List Char → Option Char
  | '"' :: _ => some '"'
  | '\'' :: _ => some '\''
  | _ => none

/-- The bracketed segment after an opening bracket: its content, and the number of
characters up to the end of its closing. A quote that is not closed belongs to the content. -/
def bracketed? (characters : List Char) : Option (List Char × Nat) :=
  let blanks := (characters.takeWhile isBlank).length
  let inside := characters.dropWhile isBlank
  let quoted := (openingQuote? inside).bind fun quote =>
    (content? (some quote) (inside.drop 1)).map fun found => (found.1, found.2 + 1)
  (quoted.or (content? none inside)).map fun found => (found.1, found.2 + blanks)

/-- The first chunk of a text that starts with the given character, and the number of
characters it takes after that one. -/
def firstChunk (character : Char) (rest : List Char) : Chunk × Nat :=
  if isMark character then
    match if character = '[' then bracketed? rest else none with
    | some (content, size) => (.bracketed content, size)
    | none => (.stray character, 0)
  else
    let run := rest.takeWhile fun next => !isMark next
    (.plain (character :: run), run.length)

/-- The chunks of a text, after as many characters as are already taken. -/
def chunksFrom : Nat → List Char → List Chunk
  | _, [] => []
  | taken + 1, _ :: rest => chunksFrom taken rest
  | 0, character :: rest =>
      let (chunk, size) := firstChunk character rest
      chunk :: chunksFrom size rest

/-- The chunks of a text. -/
def chunks (characters : List Char) : List Chunk := chunksFrom 0 characters

/-- What is wrong with a path text. -/
inductive PathFault where
  | malformed
  | emptySegment
  | noSegments
deriving DecidableEq, Repr

/-- The configuration fault of a path text. -/
def PathFault.config (text : String) : PathFault → ConfigFault
  | .malformed => .malformedNamespace text
  | .emptySegment => .emptySegment text
  | .noSegments => .noSegments text

/-- The segments of a list of chunks, in order. `first` says that no segment came before,
and `gap` holds the stray characters since the last one. Plain runs are set apart by
exactly one dot, bracketed segments by one dot or nothing, and a path starts with no gap. -/
def segmentsOf : Bool → List Char → List Chunk → Except PathFault (List (List Char))
  | _, gap, [] => if gap = [] then .ok [] else .error .malformed
  | first, gap, .stray character :: rest => segmentsOf first (gap ++ [character]) rest
  | first, gap, .plain run :: rest =>
      if gap ≠ (if first then [] else ['.']) then .error .malformed
      else if trim run = [] then .error .emptySegment
      else (segmentsOf false [] rest).map (trim run :: ·)
  | first, gap, .bracketed content :: rest =>
      if gap ≠ [] ∧ (first = true ∨ gap ≠ ['.']) then .error .malformed
      else if content = [] then .error .emptySegment
      else (segmentsOf false [] rest).map (content :: ·)

/-- The segment that stands for the outermost object. -/
def rootSegment : List Char := ['t', 'h', 'i', 's']

/-- The segments without one leading root. -/
def dropRoot (segments : List (List Char)) : List (List Char) :=
  match segments with
  | first :: rest => if first = rootSegment then rest else first :: rest
  | [] => []

/-- The segments of a path text. -/
def segments (text : List Char) : Except PathFault (List (List Char)) :=
  match segmentsOf true [] (chunks (trim text)) with
  | .error fault => .error fault
  | .ok found => if dropRoot found = [] then .error .noSegments else .ok (dropRoot found)

/-- The segments of a namespace path. -/
def split (path : String) : Except ConfigFault (List String) :=
  match segments path.toList with
  | .ok found => .ok (found.map String.ofList)
  | .error fault => .error (fault.config path)

/-- A segment in brackets. -/
def bracketSegment (segment : String) : String := "[" ++ doubleQuoted segment ++ "]"

/-- The bracket form of a list of segments. -/
def bracketPath (path : List String) : String := "this" ++ String.join (path.map bracketSegment)

/-- The statement that declares a namespace, given by its bracket form. -/
def declarationText (path : String) : String := path ++ " = " ++ path ++ " || \x7b\x7d;"

end TemplateBundle.Namespace
