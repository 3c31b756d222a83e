import TemplateBundle.Text.Numeral
import TemplateBundle.Text.Utf8
import TemplateBundle.Yaml.ScalarText
import TemplateBundle.Yaml.Token

/-!
Contract: the text of a YAML document cut into tokens.

Owns: which token starts at a place, the indentation that opens and closes blocks, and the
keys without a mark of their own, which are known as keys only by the colon after them.

Where the text cannot be cut, the tokens end. Those that may still become part of a key are not
known then, so that the fault takes their place.
-/

namespace TemplateBundle.Yaml

/-- What may turn out to be a key: which token it starts with, whether it has to be one, and
where it stands. -/
structure KeyCandidate where
  position : Nat
  required : Bool
  index : Nat
  line : Nat
  column : Nat

/-- The state of cutting: the place in the text, the tokens so far, the indentation and those
around it, the depth of brackets, whether a key may start here, and for each depth the
candidate for a key. -/
structure Lexer where
  cursor : Cursor
  tokens : Array Token
  indent : Int
  outer : List Int
  depth : Nat
  keyAllowed : Bool
  candidates : List (Nat × KeyCandidate)

namespace Lexer

/-- The text before anything is cut from it. -/
def ofText (characters : List Char) : Lexer :=
  ⟨Cursor.ofText characters, #[], -1, [], 0, true, []⟩

/-- Adds a token. -/
def push (token : Token) (lexer : Lexer) : Lexer :=
  { lexer with tokens := lexer.tokens.push token }

/-- Adds a token and goes on by some characters. -/
def pushAfter (token : Token) (count : Nat) (lexer : Lexer) : Lexer :=
  { lexer with tokens := lexer.tokens.push token, cursor := Cursor.advance count lexer.cursor }

/-- The column of the cursor. -/
def column (lexer : Lexer) : Int := lexer.cursor.column

/-- The candidate at the present depth. -/
def candidate? (lexer : Lexer) : Option KeyCandidate :=
  (lexer.candidates.find? fun entry => entry.1 == lexer.depth).map Prod.snd

/-- Forgets the candidate at the present depth. -/
def forget (lexer : Lexer) : Lexer :=
  { lexer with candidates := lexer.candidates.filter fun entry => entry.1 != lexer.depth }

/-- Gives up the candidate at the present depth. One that has to be a key is a fault. -/
def giveUp (lexer : Lexer) : Except Refusal Lexer :=
  match lexer.candidate? with
  | some candidate => if candidate.required then .error .malformed else .ok lexer.forget
  | none => .ok lexer

/-- A key without a mark stands on one line and is at most so long. -/
def keyLimit : Nat := 1024

/-- The candidate can no longer become a key. -/
def isStale (cursor : Cursor) (candidate : KeyCandidate) : Bool :=
  candidate.line != cursor.line || keyLimit < cursor.index - candidate.index

/-- Drops the candidates that can no longer become keys. -/
def dropStale (lexer : Lexer) : Except Refusal Lexer :=
  if lexer.candidates.any fun entry => isStale lexer.cursor entry.2 && entry.2.required then
    .error .malformed
  else
    .ok { lexer with
      candidates := lexer.candidates.filter fun entry => !isStale lexer.cursor entry.2 }

/-- Notes that a key may start here. -/
def noteCandidate (lexer : Lexer) : Except Refusal Lexer :=
  if lexer.keyAllowed then do
    let required := lexer.depth = 0 && lexer.indent = lexer.column
    let lexer ← lexer.giveUp
    let candidate : KeyCandidate := ⟨lexer.tokens.size, required, lexer.cursor.index,
      lexer.cursor.line, lexer.cursor.column⟩
    .ok { lexer with candidates := (lexer.depth, candidate) :: lexer.candidates }
  else .ok lexer

/-- Closes the blocks that are indented deeper than a column. Brackets keep them open. -/
def closeBlocks (column : Int) : List Int → Lexer → Lexer
  | [], lexer => lexer
  | outer :: rest, lexer =>
      if lexer.depth = 0 ∧ column < lexer.indent then
        closeBlocks column rest { (lexer.push .blockEnd) with indent := outer, outer := rest }
      else lexer

/-- Closes the blocks that do not hold a column. -/
def unwind (column : Int) (lexer : Lexer) : Lexer := lexer.closeBlocks column lexer.outer

/-- Opens a block at a column, if it is indented deeper than the one around it. -/
def openBlock (column : Int) (token : Token) (position : Nat) (lexer : Lexer) : Lexer :=
  if lexer.indent < column then
    { lexer with
      indent := column
      outer := lexer.indent :: lexer.outer
      tokens := lexer.tokens.insertIdxIfInBounds position token }
  else lexer

/-- Spaces, remarks and line breaks before the next token. A new line may start with a key. -/
def skipToToken : Nat → Lexer → Lexer
  | 0, lexer => lexer
  | fuel + 1, lexer =>
      let cursor := lexer.cursor.skipSpaces
      let cursor := if cursor.head = '#' then cursor.skipWhile (!isLineEnd ·) else cursor
      if isBreak cursor.head then
        skipToToken fuel { lexer with
          cursor := cursor.takeBreak.2
          keyAllowed := lexer.depth = 0 || lexer.keyAllowed }
      else { lexer with cursor }

/-! ## Directives and tags -/

/-- The characters of a tag's address. -/
def isAddressCharacter (character : Char) : Bool :=
  character.isAlphanum || "-;/?:@&=+$,_.!~*'()[]%".toList.contains character

/-- The bytes of escapes in an address. -/
def addressBytes : List Char → Option (List UInt8 × List Char)
  | '%' :: high :: low :: rest => do
      let high ← hexValue? high
      let low ← hexValue? low
      let (bytes, after) ← addressBytes rest
      some (UInt8.ofNat (high * 16 + low) :: bytes, after)
  | '%' :: _ => none
  | rest => some ([], rest)

/-- The text of an address, its escapes resolved. -/
def addressText? : Nat → List Char → Option (List Char)
  | 0, _ => none
  | _, [] => some []
  | fuel + 1, '%' :: rest => do
      let (bytes, after) ← addressBytes ('%' :: rest)
      let text ← Text.decodeUtf8? (ByteArray.mk bytes.toArray)
      let following ← addressText? fuel after
      some (text.toList ++ following)
  | fuel + 1, character :: rest => (addressText? fuel rest).map (character :: ·)

/-- An address at the cursor. It is not empty. -/
def readAddress (cursor : Cursor) : Except Refusal (String × Cursor) :=
  let (characters, after) := cursor.takeWhile isAddressCharacter
  match addressText? (characters.length + 1) characters with
  | some text =>
      if characters = [] then .error .malformed else .ok (String.ofList text, after)
  | none => .error .malformed

/-- The handle of a tag: one exclamation mark, two, or a name between two. -/
def readHandle (cursor : Cursor) : Except Refusal (String × Cursor) :=
  if cursor.head ≠ '!' then .error .malformed
  else if cursor.peek 1 = ' ' then .ok ("!", cursor.step)
  else
    let (name, after) := cursor.step.takeWhile isNameCharacter
    if after.head = '!' then .ok (String.ofList ('!' :: name ++ ['!']), after.step)
    else .error .malformed

/-- A number of a version. -/
def readVersionNumber (cursor : Cursor) : Except Refusal (Nat × Cursor) :=
  let (digits, after) := cursor.takeWhile Char.isDigit
  if digits = [] then .error .malformed
  else if Text.digitLimit < digits.length then .error .valueless
  else .ok (Text.decimalValue digits, after)

/-- The version that a directive names. -/
def readVersion (cursor : Cursor) : Except Refusal (Directive × Cursor) := do
  let (major, cursor) ← readVersionNumber cursor.skipSpaces
  if cursor.head ≠ '.' then .error .malformed
  else
    let (_, cursor) ← readVersionNumber cursor.step
    if isSpaceOrEnd cursor.head then .ok (.version major, cursor) else .error .malformed

/-- The tag that a directive names. -/
def readTagDirective (cursor : Cursor) : Except Refusal (Directive × Cursor) := do
  let (handle, cursor) ← readHandle cursor.skipSpaces
  if cursor.head ≠ ' ' then .error .malformed
  else
    let (address, cursor) ← readAddress cursor.skipSpaces
    if isSpaceOrEnd cursor.head then .ok (.tag handle address, cursor) else .error .malformed

/-- A directive, from its percent sign to the end of its line. -/
def readDirective (cursor : Cursor) : Except Refusal (Directive × Cursor) := do
  let (name, cursor) := cursor.step.takeWhile isNameCharacter
  if name = [] ∨ ¬ isSpaceOrEnd cursor.head then .error .malformed
  else
    let (directive, cursor) ←
      if name = "YAML".toList then readVersion cursor
      else if name = "TAG".toList then readTagDirective cursor
      else .ok (.other, cursor.skipWhile (!isLineEnd ·))
    match cursor.finishLine? with
    | some cursor => .ok (directive, cursor)
    | none => .error .malformed

/-- A tag: written out between angle brackets, a single mark, or a handle and an address. -/
def readTag (cursor : Cursor) : Except Refusal (Token × Cursor) := do
  let next := cursor.peek 1
  let (token, cursor) ←
    if next = '<' then do
      let (address, cursor) ← readAddress (Cursor.advance 2 cursor)
      if cursor.head = '>' then .ok (Token.tag none address, cursor.step) else .error .malformed
    else if isGap next then .ok (.tag none "!", cursor.step)
    else do
      let marked := (cursor.step.rest.takeWhile (!isSpaceOrEnd ·)).contains '!'
      let (handle, cursor) ← if marked then readHandle cursor else .ok ("!", cursor.step)
      let (address, cursor) ← readAddress cursor
      .ok (.tag (some handle) address, cursor)
  if isSpaceOrEnd cursor.head then .ok (token, cursor) else .error .malformed

/-- The name of an anchor or an alias, after its sign. -/
def readName (cursor : Cursor) : Except Refusal (String × Cursor) :=
  let (name, cursor) := cursor.step.takeWhile isNameCharacter
  if name = [] then .error .malformed
  else if isGap cursor.head || "?:,]\x7d%@`".toList.contains cursor.head then
    .ok (String.ofList name, cursor)
  else .error .malformed

/-! ## Tokens -/

/-- The end of the text closes every block. -/
def fetchEnd (lexer : Lexer) : Except Refusal Lexer := do
  let lexer ← (lexer.unwind (-1)).giveUp
  .ok { (lexer.push .streamEnd) with keyAllowed := false, candidates := [] }

/-- A mark between documents closes every block. -/
def fetchSeparator (token : Token) (lexer : Lexer) : Except Refusal Lexer := do
  let lexer ← (lexer.unwind (-1)).giveUp
  .ok { (lexer.pushAfter token 3) with keyAllowed := false }

/-- A directive. -/
def fetchDirective (lexer : Lexer) : Except Refusal Lexer := do
  let lexer ← (lexer.unwind (-1)).giveUp
  let (directive, cursor) ← readDirective lexer.cursor
  .ok { (lexer.push (.directive directive)) with keyAllowed := false, cursor }

/-- An opening bracket, which may be a key or start one. -/
def fetchOpening (token : Token) (lexer : Lexer) : Except Refusal Lexer := do
  let lexer ← lexer.noteCandidate
  .ok { (lexer.pushAfter token 1) with depth := lexer.depth + 1, keyAllowed := true }

/-- A closing bracket. -/
def fetchClosing (token : Token) (lexer : Lexer) : Except Refusal Lexer := do
  if lexer.depth = 0 then .error .malformed
  else
    let lexer ← lexer.giveUp
    .ok { (lexer.pushAfter token 1) with depth := lexer.depth - 1, keyAllowed := false }

/-- A comma. -/
def fetchFlowEntry (lexer : Lexer) : Except Refusal Lexer := do
  let lexer ← lexer.giveUp
  .ok { (lexer.pushAfter .flowEntry 1) with keyAllowed := true }

/-- A hyphen, which opens a sequence if it is indented deeper. -/
def fetchBlockEntry (lexer : Lexer) : Except Refusal Lexer := do
  if lexer.depth = 0 ∧ lexer.keyAllowed = false then .error .malformed
  else
    let lexer := if lexer.depth = 0
      then lexer.openBlock lexer.column .blockSequenceStart lexer.tokens.size else lexer
    let lexer ← lexer.giveUp
    .ok { (lexer.pushAfter .blockEntry 1) with keyAllowed := true }

/-- A question mark, which marks a key. -/
def fetchKey (lexer : Lexer) : Except Refusal Lexer := do
  if lexer.depth = 0 ∧ lexer.keyAllowed = false then .error .malformed
  else
    let lexer := if lexer.depth = 0
      then lexer.openBlock lexer.column .blockMappingStart lexer.tokens.size else lexer
    let lexer ← lexer.giveUp
    .ok { (lexer.pushAfter .key 1) with keyAllowed := lexer.depth = 0 }

/-- A colon. What stands before it on its line is the key; if nothing can be, the key has a
mark of its own. -/
def fetchValue (lexer : Lexer) : Except Refusal Lexer := do
  match lexer.candidate? with
  | some candidate =>
      let lexer := { lexer.forget with
        tokens := lexer.tokens.insertIdxIfInBounds candidate.position .key }
      let lexer := if lexer.depth = 0
        then lexer.openBlock candidate.column .blockMappingStart candidate.position else lexer
      .ok { (lexer.pushAfter .value 1) with keyAllowed := false }
  | none =>
      if lexer.depth = 0 ∧ lexer.keyAllowed = false then .error .malformed
      else
        let lexer := if lexer.depth = 0
          then lexer.openBlock lexer.column .blockMappingStart lexer.tokens.size else lexer
        .ok { (lexer.pushAfter .value 1) with keyAllowed := lexer.depth = 0 }

/-- An anchor, an alias, or a tag, which may start a key. -/
def fetchMarked (read : Cursor → Except Refusal (Token × Cursor)) (lexer : Lexer) :
    Except Refusal Lexer := do
  let lexer ← lexer.noteCandidate
  let (token, cursor) ← read lexer.cursor
  .ok { (lexer.push token) with cursor, keyAllowed := false }

/-- A block scalar. -/
def fetchBlockScalar (lexer : Lexer) : Except Refusal Lexer := do
  let lexer ← lexer.giveUp
  let (content, cursor) ← readBlock lexer.indent lexer.cursor
  .ok { (lexer.push (.scalar (String.ofList content) false)) with cursor, keyAllowed := true }

/-- A quoted scalar, which may be a key. -/
def fetchQuoted (lexer : Lexer) : Except Refusal Lexer := do
  let lexer ← lexer.noteCandidate
  let (content, cursor) ← readQuoted lexer.cursor
  .ok { (lexer.push (.scalar (String.ofList content) false)) with cursor, keyAllowed := false }

/-- A plain scalar, which may be a key. -/
def fetchPlain (lexer : Lexer) : Except Refusal Lexer := do
  let lexer ← lexer.noteCandidate
  let text := readPlain (lexer.depth ≠ 0) (lexer.indent + 1) lexer.cursor
  .ok { (lexer.push (.scalar (String.ofList text.content) true)) with
    cursor := text.cursor, keyAllowed := text.brokeLine }

/-- A plain scalar can start at the cursor. -/
def startsPlain (inFlow : Bool) (cursor : Cursor) : Bool :=
  let character := cursor.head
  if isGap character || "-?:,[]\x7b\x7d#&*!|>'\"%@`".toList.contains character then
    !isGap (cursor.peek 1) &&
      (character = '-' || (!inFlow && (character = '?' || character = ':')))
  else true

/-- The token at the cursor. -/
def fetchHere (lexer : Lexer) : Except Refusal Lexer :=
  let cursor := lexer.cursor
  let inFlow := lexer.depth ≠ 0
  let character := cursor.head
  let marks := inFlow || isGap (cursor.peek 1)
  let named (token : String → Token) (cursor : Cursor) : Except Refusal (Token × Cursor) :=
    (readName cursor).map fun found => (token found.1, found.2)
  if character = endMark then lexer.fetchEnd
  else if character = '%' ∧ cursor.column = 0 then lexer.fetchDirective
  else if cursor.column = 0 ∧ cursor.atTriple '-' then lexer.fetchSeparator .documentStart
  else if cursor.column = 0 ∧ cursor.atTriple '.' then lexer.fetchSeparator .documentEnd
  else if character = '[' then lexer.fetchOpening .flowSequenceStart
  else if character = '\x7b' then lexer.fetchOpening .flowMappingStart
  else if character = ']' then lexer.fetchClosing .flowSequenceEnd
  else if character = '\x7d' then lexer.fetchClosing .flowMappingEnd
  else if character = ',' then lexer.fetchFlowEntry
  else if character = '-' ∧ isGap (cursor.peek 1) then lexer.fetchBlockEntry
  else if character = '?' ∧ marks then lexer.fetchKey
  else if character = ':' ∧ marks then lexer.fetchValue
  else if character = '*' then lexer.fetchMarked (named .reference)
  else if character = '&' then lexer.fetchMarked (named .anchor)
  else if character = '!' then lexer.fetchMarked readTag
  else if (character = '|' ∨ character = '>') ∧ lexer.depth = 0 then lexer.fetchBlockScalar
  else if character = '\'' ∨ character = '"' then lexer.fetchQuoted
  else if startsPlain inFlow cursor then lexer.fetchPlain
  else .error .malformed

/-- The next token, and whatever blocks end before it. -/
def fetch (lexer : Lexer) : Except Refusal Lexer := do
  let lexer := skipToToken (lexer.cursor.rest.length + 1) lexer
  let lexer ← lexer.dropStale
  (lexer.unwind lexer.column).fetchHere

/-- The number of tokens that stay what they are, whatever follows them. -/
def settled (lexer : Lexer) : Nat :=
  let pending := lexer.candidates.filter fun entry => !isStale lexer.cursor entry.2
  pending.foldl (fun least entry => min least entry.2.position) lexer.tokens.size

/-- The tokens that are known where the text cannot be cut any further. -/
def breakOff (lexer : Lexer) (refusal : Refusal) : List Token :=
  lexer.tokens.toList.take lexer.settled ++ [.broken refusal]

/-- Cuts tokens up to the end of the text. Every token but the last takes a character. -/
def fetchAll : Nat → Lexer → List Token
  | 0, lexer => lexer.breakOff .malformed
  | fuel + 1, lexer =>
      match lexer.fetch with
      | .error refusal => lexer.breakOff refusal
      | .ok next =>
          if next.tokens.back? = some .streamEnd then next.tokens.toList else fetchAll fuel next

end Lexer

/-- The tokens of a text. A mark of byte order at its start does not count. -/
def tokensOf (characters : List Char) : List Token :=
  if characters.all isAllowed then
    let start := Lexer.ofText characters
    let cursor := if start.cursor.head = byteOrderMark then start.cursor.step else start.cursor
    Lexer.fetchAll (characters.length + 2) { start with cursor }
  else [.broken .malformed]

end TemplateBundle.Yaml
