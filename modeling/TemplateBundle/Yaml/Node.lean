import TemplateBundle.Yaml.Plain
import TemplateBundle.Yaml.Token

/-!
Contract: the nodes of a YAML document.

Owns: how tokens make up scalars, sequences and mappings, in blocks and in brackets; tags,
anchors and aliases; and that there is at most one document.

The nodes have numbers, and a node is part of another one by its number. An alias is the number of
the node that it names, which may be a node that the alias is a part of.
-/

namespace TemplateBundle.Yaml

/-- A node of a document, with the numbers of its parts. -/
inductive Node where
  | scalar (kind : Kind) (content : String)
  | sequence (kind : Kind) (items : List Nat)
  | mapping (kind : Kind) (pairs : List (Nat × Nat))

/-- The nodes of a document, by their numbers. -/
abbrev Graph := Array Node

/-- A document: its nodes, and the number of the one that holds the others. -/
structure Composition where
  nodes : Graph
  root : Nat

namespace Node

/-- The kind of a node. -/
def kind : Node → Kind
  | .scalar kind _ => kind
  | .sequence kind _ => kind
  | .mapping kind _ => kind

/-- Nothing at all. -/
def empty : Node := .scalar .null ""

/-! ## Reading tokens -/

/-- What is known while nodes are read: the tokens that follow, the nodes so far, and which of them
have an anchor. -/
structure Draft where
  tokens : List Token
  nodes : Graph
  anchors : List (String × Nat)

/-- A step that reads tokens. -/
abbrev Reader := StateT Draft (Except Refusal)

/-- The starts of tags by their handles. -/
abbrev Handles := List (String × String)

/-- The next token. Where the text is refused, so is everything that asks for it. -/
def next : Reader Token := do
  match (← get).tokens with
  | [] => throw .malformed
  | .broken refusal :: _ => throw refusal
  | token :: _ => return token

/-- Passes over the next token. -/
def skip : Reader Unit :=
  modify fun draft => { draft with tokens := draft.tokens.drop 1 }

/-- A new node, with its anchor. -/
def add (anchor : Option String) (node : Node) : Reader Nat := do
  let draft ← get
  let number := draft.nodes.size
  let anchors := anchor.toList.map fun name => (name, number)
  set { draft with nodes := draft.nodes.push node, anchors := anchors ++ draft.anchors }
  return number

/-- Puts a node in the place of a number. -/
def put (number : Nat) (node : Node) : Reader Unit :=
  modify fun draft => { draft with nodes := draft.nodes.setIfInBounds number node }

/-- The handles that every document knows. -/
def standardHandles : Handles := [("!", "!"), ("!!", commonTags)]

/-- What is said before a node: its anchor and its tag. -/
structure Properties where
  anchor : Option String
  tag : Option (Option String × String)

/-- The anchor and the tag before a node, in either order. -/
def properties : Reader Properties := do
  match ← next with
  | .anchor name => do
      skip
      match ← next with
      | .tag handle suffix => do
          skip
          return ⟨some name, some (handle, suffix)⟩
      | _ => return ⟨some name, none⟩
  | .tag handle suffix => do
      skip
      match ← next with
      | .anchor name => do
          skip
          return ⟨some name, some (handle, suffix)⟩
      | _ => return ⟨none, some (handle, suffix)⟩
  | _ => return ⟨none, none⟩

/-- The written-out tag, if there is one. -/
def fullTag (handles : Handles) : Option (Option String × String) → Except Refusal (Option String)
  | none => .ok none
  | some (none, suffix) => .ok (some suffix)
  | some (some handle, suffix) =>
      match handles.lookup handle with
      | some start => .ok (some (start ++ suffix))
      | none => .error .malformed

/-- The tag that says nothing: a single mark. -/
def plainMark : String := "!"

/-- The kind of a node with a tag, or the kind of its form. -/
def kindOf (tag : Option String) (form : Kind) : Kind :=
  match tag with
  | none => form
  | some name => if name = plainMark then form else Kind.ofTag name

/-- The content without a line feed at its end, which does not count for the form. -/
def withoutLastFeed (content : String) : String :=
  match content.toList.reverse with
  | '\n' :: rest => String.ofList rest.reverse
  | _ => content

/-- The kind of a scalar. Only a plain one, or one with a single mark, is judged by its text. -/
def scalarKind (tag : Option String) (plain : Bool) (content : String) : Kind :=
  match tag with
  | none => if plain then Kind.ofPlain content else .text
  | some name =>
      if name = plainMark then Kind.ofPlain (withoutLastFeed content) else Kind.ofTag name

/-- The node that an alias names. -/
def resolve (name : String) : Reader Nat := do
  match (← get).anchors.lookup name with
  | some number => return number
  | none => throw .malformed

/-- An anchor is used once. -/
def demandNew (anchor : Option String) : Reader Unit := do
  let draft ← get
  if anchor.any fun name => (draft.anchors.lookup name).isSome then throw .malformed

/-- Where a node stands, which says what may be a node there. -/
inductive Position where
  /-- In a block. -/
  | block
  /-- In a block mapping, where a sequence need not be indented. -/
  | blockValue
  /-- In brackets. -/
  | flow
deriving DecidableEq

/-- What a token begins. -/
inductive Form where
  | scalar (content : String) (plain : Bool)
  | flowSequence
  | flowMapping
  | blockSequence
  | blockMapping
  /-- A sequence that is not indented. -/
  | flatSequence
  /-- No node. -/
  | nothing

/-- What a token begins at some position. -/
def Form.ofToken (position : Position) : Token → Form
  | .scalar content plain => .scalar content plain
  | .flowSequenceStart => .flowSequence
  | .flowMappingStart => .flowMapping
  | .blockSequenceStart => if position = .flow then .nothing else .blockSequence
  | .blockMappingStart => if position = .flow then .nothing else .blockMapping
  | .blockEntry => if position = .blockValue then .flatSequence else .nothing
  | _ => .nothing

/-- Reads the comma that goes before every entry but the first. -/
def separator (first : Bool) (last : Token) : Reader Unit := do
  let token ← next
  if token = last ∨ first = true then return ()
  else if token = .flowEntry then skip
  else throw .malformed

/-- A sequence with an anchor and a kind. Its number is known before its items are read. -/
def addSequence (anchor : Option String) (kind : Kind) (items : Reader (List Nat)) :
    Reader Nat := do
  let number ← add anchor (.sequence kind [])
  put number (.sequence kind (← items))
  return number

/-- A mapping with an anchor and a kind. Its number is known before its pairs are read. -/
def addMapping (anchor : Option String) (kind : Kind) (pairs : Reader (List (Nat × Nat))) :
    Reader Nat := do
  let number ← add anchor (.mapping kind [])
  put number (.mapping kind (← pairs))
  return number

mutual

/-- A node. The second number says how deep nodes may be nested in it. -/
def read (handles : Handles) (position : Position) : Nat → Nat → Reader Nat
  | 0, _ => throw .malformed
  | _, 0 => throw .tooDeep
  | fuel + 1, depth + 1 => do
      match ← next with
      | .reference name => do
          skip
          resolve name
      | _ => do
          let said ← properties
          let tag ← fullTag handles said.tag
          let form := Form.ofToken position (← next)
          match form with
          | .nothing =>
              if said.anchor.isNone ∧ said.tag.isNone then throw .malformed
              else
                demandNew said.anchor
                add said.anchor (.scalar (kindOf tag .null) "")
          | .scalar content plain =>
              demandNew said.anchor
              skip
              add said.anchor (.scalar (scalarKind tag plain content) content)
          | .flowSequence =>
              demandNew said.anchor
              skip
              addSequence said.anchor (kindOf tag .sequence) (readFlowItems handles true fuel depth)
          | .flowMapping =>
              demandNew said.anchor
              skip
              addMapping said.anchor (kindOf tag .mapping) (readFlowPairs handles true fuel depth)
          | .blockSequence =>
              demandNew said.anchor
              skip
              addSequence said.anchor (kindOf tag .sequence) (readBlockItems handles fuel depth)
          | .blockMapping =>
              demandNew said.anchor
              skip
              addMapping said.anchor (kindOf tag .mapping) (readBlockPairs handles fuel depth)
          | .flatSequence =>
              demandNew said.anchor
              addSequence said.anchor (kindOf tag .sequence) (readFlatItems handles fuel depth)
termination_by structural fuel => fuel

/-- A node, or nothing where the next token ends the entry. -/
def readOr (handles : Handles) (ends : List Token) (position : Position) :
    Nat → Nat → Reader Nat
  | 0, _ => throw .malformed
  | fuel + 1, depth => do
      if ends.contains (← next) then add none empty else read handles position fuel depth
termination_by structural fuel => fuel

/-- The items of a block sequence, up to the end of the block. -/
def readBlockItems (handles : Handles) : Nat → Nat → Reader (List Nat)
  | 0, _ => throw .malformed
  | fuel + 1, depth => do
      match ← next with
      | .blockEntry => do
          skip
          let item ← readOr handles [.blockEntry, .blockEnd] .block fuel depth
          return item :: (← readBlockItems handles fuel depth)
      | .blockEnd => do
          skip
          return []
      | _ => throw .malformed
termination_by structural fuel => fuel

/-- The items of a sequence that is not indented, up to the first token that is no item. -/
def readFlatItems (handles : Handles) : Nat → Nat → Reader (List Nat)
  | 0, _ => throw .malformed
  | fuel + 1, depth => do
      match ← next with
      | .blockEntry => do
          skip
          let item ← readOr handles [.blockEntry, .key, .value, .blockEnd] .block fuel depth
          return item :: (← readFlatItems handles fuel depth)
      | _ => return []
termination_by structural fuel => fuel

/-- The value after a key, if there is one. -/
def readValue (handles : Handles) (ends : List Token) (position : Position) :
    Nat → Nat → Reader Nat
  | 0, _ => throw .malformed
  | fuel + 1, depth => do
      match ← next with
      | .value => do
          skip
          readOr handles ends position fuel depth
      | _ => add none empty
termination_by structural fuel => fuel

/-- The pairs of a block mapping, up to the end of the block. -/
def readBlockPairs (handles : Handles) : Nat → Nat → Reader (List (Nat × Nat))
  | 0, _ => throw .malformed
  | fuel + 1, depth => do
      let ends : List Token := [.key, .value, .blockEnd]
      match ← next with
      | .key => do
          skip
          let key ← readOr handles ends .blockValue fuel depth
          let value ← readValue handles ends .blockValue fuel depth
          return (key, value) :: (← readBlockPairs handles fuel depth)
      | .blockEnd => do
          skip
          return []
      | _ => throw .malformed
termination_by structural fuel => fuel

/-- A pair in brackets, after the mark of its key. -/
def readFlowPair (handles : Handles) (last : Token) : Nat → Nat → Reader (Nat × Nat)
  | 0, _ => throw .malformed
  | fuel + 1, depth => do
      let ends : List Token := [.flowEntry, last]
      let key ← readOr handles (.value :: ends) .flow fuel depth
      let value ← readValue handles ends .flow fuel depth
      return (key, value)
termination_by structural fuel => fuel

/-- The items of a sequence in brackets. A marked key makes an item a mapping of one pair. -/
def readFlowItems (handles : Handles) (first : Bool) : Nat → Nat → Reader (List Nat)
  | 0, _ => throw .malformed
  | fuel + 1, depth => do
      separator first .flowSequenceEnd
      match ← next with
      | .flowSequenceEnd => do
          skip
          return []
      | .key => do
          skip
          let item ← addMapping none .mapping do
            return [← readFlowPair handles .flowSequenceEnd fuel depth]
          return item :: (← readFlowItems handles false fuel depth)
      | _ => do
          let item ← read handles .flow fuel depth
          return item :: (← readFlowItems handles false fuel depth)
termination_by structural fuel => fuel

/-- The pairs of a mapping in brackets. A node without a mark is a key with no value. -/
def readFlowPairs (handles : Handles) (first : Bool) : Nat → Nat → Reader (List (Nat × Nat))
  | 0, _ => throw .malformed
  | fuel + 1, depth => do
      separator first .flowMappingEnd
      match ← next with
      | .flowMappingEnd => do
          skip
          return []
      | .key => do
          skip
          let pair ← readFlowPair handles .flowMappingEnd fuel depth
          return pair :: (← readFlowPairs handles false fuel depth)
      | _ => do
          let key ← read handles .flow fuel depth
          let value ← add none empty
          return (key, value) :: (← readFlowPairs handles false fuel depth)
termination_by structural fuel => fuel

end

/-! ## Documents -/

/-- The directives before a document: the handles that they define. The version is given at
most once and is the first; a handle is defined at most once. -/
def readDirectives : Nat → Bool → Handles → Reader Handles
  | 0, _, _ => throw .malformed
  | fuel + 1, versioned, handles => do
      match ← next with
      | .directive (.version major) => do
          skip
          if versioned ∨ major ≠ 1 then throw .malformed
          else readDirectives fuel true handles
      | .directive (.tag handle start) => do
          skip
          if (handles.lookup handle).isSome then throw .malformed
          else readDirectives fuel versioned ((handle, start) :: handles)
      | .directive .other => do
          skip
          readDirectives fuel versioned handles
      | _ =>
          return handles ++ standardHandles.filter fun entry => (handles.lookup entry.1).isNone

/-- Passes over the marks of ended documents. -/
def skipEnds : Nat → Reader Unit
  | 0 => throw .malformed
  | fuel + 1 => do
      if (← next) = .documentEnd then
        skip
        skipEnds fuel

/-- A mark or a directive stands where a document could have content. -/
def endsContent : Token → Bool
  | .directive _ => true
  | .documentStart => true
  | .documentEnd => true
  | .streamEnd => true
  | _ => false

/-- Nothing but ends of documents is left. What follows instead is read as far as the mark of a
further document. -/
def demandEnd (fuel : Nat) : Reader Unit := do
  skipEnds fuel
  if (← next) ≠ .streamEnd then
    let _ ← readDirectives fuel false []
    let _ ← next
    throw .malformed

/-- The number of levels that nodes may be nested in. -/
def depthLimit : Nat := 488

/-- The root of the only document, if there is one. -/
def readDocument (fuel : Nat) : Reader (Option Nat) := do
  match ← next with
  | .streamEnd => return none
  | token => do
      let marked := match token with
        | .directive _ => true
        | .documentStart => true
        | _ => false
      let root ←
        if marked then do
          let handles ← readDirectives fuel false []
          if (← next) ≠ .documentStart then throw .malformed
          else
            skip
            if endsContent (← next) then add none empty else read handles .block fuel depthLimit
        else read standardHandles .block fuel depthLimit
      demandEnd fuel
      return some root

end Node

/-- The document of some tokens, if there is one. -/
def Composition.ofTokens (tokens : List Token) : Except Refusal (Option Composition) := do
  let (root, draft) ← (Node.readDocument (4 * tokens.length + 4)).run ⟨tokens, #[], []⟩
  .ok (root.map fun root => ⟨draft.nodes, root⟩)

end TemplateBundle.Yaml
