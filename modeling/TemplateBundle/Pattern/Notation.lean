import TemplateBundle.Pattern.Part

/-!
Contract: the notation of patterns.

Owns: the reader, which says why a text notes no pattern. The notation has literals, dots, places,
sets, classes, counts, alternatives, groups (numbered, named or neither), references to groups,
looks ahead and behind, conditions, remarks, and flags for a whole pattern or for one group.

A group without a name and without flags is only a way to count its parts together: in a branch
they stand side by side with the others.
-/

namespace TemplateBundle.Pattern

/-! ## What is known while a pattern is read -/

/-- What is left of a text, and the groups so far. -/
structure Draft where
  signs : List Sign
  /-- How many groups have been opened. -/
  opened : Nat
  /-- The widths of the groups that have been closed. -/
  widths : List (Nat × Width)
  names : List (String × Nat)
  /-- The first of the groups that a look behind that is being read may not refer to. -/
  barred : Option Nat
  /-- The numbers of groups that there have to be in the end. -/
  promised : List Nat
  /-- The text is refused, though it can be read to its end. -/
  refused : Bool

/-- The draft of a text before anything has been read. -/
def Draft.ofSigns (signs : List Sign) : Draft := ⟨signs, 0, [], [], none, [], false⟩

/-- The width of a group that has been closed. -/
def Draft.width? (draft : Draft) (number : Nat) : Option Width := draft.widths.lookup number

/-- A look behind that is being read may refer to the group. -/
def Draft.admits (draft : Draft) (number : Nat) : Bool :=
  draft.barred.all fun first => (draft.width? number).isSome && number < first

/-- A step that reads some signs. -/
abbrev Reader := StateT Draft (Except NotationFault)

/-- Reads with a function on signs. -/
def take {Result : Type} (read : List Sign → Except NotationFault (Result × List Sign)) :
    Reader Result := do
  let (result, rest) ← read (← get).signs
  modify fun draft => { draft with signs := rest }
  return result

/-- Reads a character, if it comes next. -/
def accept (character : Char) : Reader Bool := do
  match (← get).signs with
  | .plain next :: rest =>
      if next = character then
        modify fun draft => { draft with signs := rest }
        return true
      else return false
  | _ => return false

/-- Reads a character that has to come next. -/
def demand (character : Char) : Reader Unit := do
  unless ← accept character do throw .malformed

/-- The width of a group that is referred to. -/
def referredWidth (number : Nat) : Reader Width := do
  let draft ← get
  match draft.width? number with
  | some width => if draft.admits number then return width else throw .malformed
  | none => throw .malformed

/-! ## How groups open -/

/-- What the flags in a group are for. -/
inductive FlagScope where
  /-- The whole pattern. -/
  | whole (added : Flags)
  /-- The group. -/
  | inside (added removed : Flags)

/-- The flags at the start of some signs. -/
def readFlags (signs : List Sign) : Flags × List Sign :=
  let (marks, rest) := plainRun (fun mark => (Flag.ofCharacter? mark).isSome) signs
  (marks.filterMap Flag.ofCharacter?, rest)

/-- The flags of a group may be turned on and off together. -/
def flagsFit (added removed : Flags) : Bool :=
  !added.contains .countless && !removed.contains .countless && !removed.namesAlphabet &&
    !added.any removed.contains

/-- Flags and what ends them. -/
def readFlagScope (signs : List Sign) : Except NotationFault (FlagScope × List Sign) :=
  let (added, rest) := readFlags signs
  if added.namesBoth then .error .malformed
  else
    match rest with
    | .plain ')' :: after =>
        if added = [] then .error .malformed else .ok (.whole added, after)
    | .plain ':' :: after =>
        if flagsFit added [] then .ok (.inside added [], after) else .error .malformed
    | .plain '-' :: rest =>
        let (removed, rest) := readFlags rest
        match rest with
        | .plain ':' :: after =>
            if removed ≠ [] ∧ flagsFit added removed then .ok (.inside added removed, after)
            else .error .malformed
        | _ => .error .malformed
    | _ => .error .malformed

/-- The characters up to one that ends a name. -/
def readName (closing : Char) (signs : List Sign) : Except NotationFault (List Char × List Sign) :=
  match plainRun (· ≠ closing) signs with
  | (name, .plain _ :: rest) => .ok (name, rest)
  | _ => .error .malformed

/-- The characters are an identifier. -/
def isIdentifier (name : List Char) : Bool :=
  name.all Text.isWord && name.head?.any (!Text.isDecimal ·)

/-- An identifier up to a character that ends it. -/
def readIdentifier (closing : Char) (signs : List Sign) :
    Except NotationFault (String × List Sign) := do
  let (name, rest) ← readName closing signs
  if isIdentifier name then .ok (String.ofList name, rest) else .error .malformed

/-- What follows a remark. -/
def afterRemark : List Sign → Except NotationFault (List Sign)
  | [] => .error .malformed
  | .plain ')' :: rest => .ok rest
  | _ :: rest => afterRemark rest

/-- How a group opens. -/
inductive Opening where
  | remark
  | numbered
  | named (name : String)
  | scope (added removed : Flags)
  | firstWay
  | ahead (negated : Bool)
  | behind (negated : Bool)
  /-- The text of a named group once more. -/
  | sameAs (name : String)
  /-- Two branches, of which a group decides. -/
  | given (name : List Char)

/-- Reads what follows the parenthesis that opens a group. -/
def readOpening : List Sign → Except NotationFault (Opening × List Sign)
  | .plain '?' :: .plain ':' :: rest => .ok (.scope [] [], rest)
  | .plain '?' :: .plain '>' :: rest => .ok (.firstWay, rest)
  | .plain '?' :: .plain '=' :: rest => .ok (.ahead false, rest)
  | .plain '?' :: .plain '!' :: rest => .ok (.ahead true, rest)
  | .plain '?' :: .plain '<' :: .plain '=' :: rest => .ok (.behind false, rest)
  | .plain '?' :: .plain '<' :: .plain '!' :: rest => .ok (.behind true, rest)
  | .plain '?' :: .plain '#' :: rest => (afterRemark rest).map fun after => (.remark, after)
  | .plain '?' :: .plain 'P' :: .plain '<' :: rest =>
      (readIdentifier '>' rest).map fun (name, after) => (.named name, after)
  | .plain '?' :: .plain 'P' :: .plain '=' :: rest =>
      (readIdentifier ')' rest).map fun (name, after) => (.sameAs name, after)
  | .plain '?' :: .plain '(' :: rest =>
      (readName ')' rest).map fun (name, after) => (.given name, after)
  | .plain '?' :: rest => do
      match ← readFlagScope rest with
      | (.inside added removed, after) => .ok (.scope added removed, after)
      -- Flags for the whole pattern stand before everything else.
      | (.whole _, _) => .error .malformed
  | rest => .ok (.numbered, rest)

/-- The greatest number of groups. -/
def groupLimit : Nat := 1073741823

/-- The number of the group that a condition asks for. A group that is asked for by its number may
come later. -/
def readCondition (name : List Char) : Reader Nat := do
  let draft ← get
  if isIdentifier name then
    match draft.names.lookup (String.ofList name) with
    | some number => if draft.admits number then return number else throw .malformed
    | none => throw .malformed
  else
    match Text.readWhole? name with
    | some (below, digits) =>
        let number := Text.valueOfDigits digits
        if below ∨ number = 0 ∨ groupLimit ≤ number ∨ Text.digitLimit < digits.length ∨
            ¬ draft.admits number then throw .malformed
        else
          set { draft with promised := number :: draft.promised }
          return number
    | none => throw .malformed

/-! ## Branches -/

/-- Whether a count may follow. -/
inductive Countable where
  | yes
  | place
  | counted
deriving DecidableEq

/-- Parts that a count would take together. -/
structure Chunk where
  parts : List Part
  countable : Countable

/-- One part that a count may follow. -/
def Chunk.one (part : Part) : Chunk := ⟨[part], .yes⟩

/-- The parts of chunks, the last of which comes first. -/
def Chunk.allParts (chunks : List Chunk) : List Part := chunks.reverse.flatMap (·.parts)

/-- The chunks with a count after the last of them. -/
def countLast (flags : Flags) (count : Count) : List Chunk → Reader (List Chunk)
  | ⟨parts, .yes⟩ :: before => do
      if flags.contains .countless then modify fun draft => { draft with refused := true }
      return ⟨[.counted count parts], .counted⟩ :: before
  | _ => throw .malformed

/-- A blank that does not count between parts. -/
def isSpacing (character : Char) : Bool :=
  character = ' ' || 9 ≤ character.toNat && character.toNat ≤ 13

/-- What follows the line that some signs begin in. -/
def afterLine (signs : List Sign) : List Sign :=
  (signs.dropWhile (· ≠ .plain '\n')).drop 1

/-- Reads a set after its opening bracket. -/
def readSetPart (flags : Flags) : Reader Part := do
  let negated ← accept '^'
  let items ← take fun signs => readSet (signs.length + 1) [] signs
  return .ofSet flags negated (distinctItems items.reverse)

/-- Reads an escape after its backslash. -/
def readEscapeChunk (flags : Flags) (character : Char) : Reader Chunk := do
  match ← take (readEscape character) with
  | .code code => return .one (.letter flags false code)
  | .named kind negated => return .one (.oneOf flags false [.named kind negated])
  | .place place => return ⟨[.place flags place], .place⟩
  | .sameAs number => return .one (.sameAs flags number (← referredWidth number))

/-- Opens a group that is remembered. -/
def openGroup (name : Option String) : Reader Nat := do
  let draft ← get
  let number := draft.opened + 1
  if name.any fun name => (draft.names.lookup name).isSome then throw .malformed
  let names := name.toList.map fun name => (name, number)
  set { draft with opened := number, names := names ++ draft.names }
  return number

/-- Closes a group that is remembered. -/
def closeGroup (number : Nat) (parts : List Part) : Reader Part := do
  modify fun draft => { draft with widths := (number, Part.totalWidth parts) :: draft.widths }
  return .enclosed (.group number) parts

/-- Bars the groups that are opened from here on, unless an outer look behind has done so, and
says what was barred before. -/
def barGroups : Reader (Option Nat) := do
  let draft ← get
  set { draft with barred := draft.barred.or (some (draft.opened + 1)) }
  return draft.barred

/-- The look behind at some parts, which have to have a fixed width. -/
def lookBehind (negated : Bool) (barred : Option Nat) (parts : List Part) : Reader Part := do
  let width := Part.totalWidth parts
  modify fun draft =>
    { draft with barred := barred, refused := draft.refused || !width.isFixed }
  return .plain (.behind negated width.least (Part.sequence parts)) .zero

/-- The part that is one of two branches. -/
def conditional (number : Nat) (present absent : List Part) : Part :=
  .plain (.given number (Part.sequence present) (Part.sequence absent))
    ((Part.totalWidth present).either (Part.totalWidth absent))

mutual

/-- Alternatives up to a closing parenthesis or the end. The second number says how deep they may
be nested. -/
def readChoice : Nat → Nat → Flags → Reader (List Part)
  | 0, _, _ => throw .malformed
  | _, 0, _ => throw .tooDeep
  | fuel + 1, depth + 1, flags => return Part.ofBranches flags (← readBranches fuel depth flags)
termination_by structural fuel => fuel

/-- Branches up to a closing parenthesis or the end. -/
def readBranches : Nat → Nat → Flags → Reader (List (List Part))
  | 0, _, _ => throw .malformed
  | fuel + 1, depth, flags => do
      let branch ← readBranch fuel depth flags []
      if ← accept '|' then return branch :: (← readBranches fuel depth flags)
      else return [branch]
termination_by structural fuel => fuel

/-- One branch up to a bar, a closing parenthesis or the end. -/
def readBranch : Nat → Nat → Flags → List Chunk → Reader (List Part)
  | 0, _, _, _ => throw .malformed
  | fuel + 1, depth, flags, chunks => do
      match (← get).signs with
      | [] => return Chunk.allParts chunks
      | sign :: rest =>
          if sign = .plain '|' ∨ sign = .plain ')' then return Chunk.allParts chunks
          else
            modify fun draft => { draft with signs := rest }
            readBranch fuel depth flags (← readSign fuel depth flags chunks sign)
termination_by structural fuel => fuel

/-- The chunks of a branch after one more sign and what belongs to it. -/
def readSign : Nat → Nat → Flags → List Chunk → Sign → Reader (List Chunk)
  | 0, _, _, _, _ => throw .malformed
  | _, _, _, _, .dangling => throw .malformed
  | _, _, flags, chunks, .escaped character =>
      return (← readEscapeChunk flags character) :: chunks
  | fuel + 1, depth, flags, chunks, .plain character => do
      if flags.contains .spaced ∧ isSpacing character then return chunks
      else if flags.contains .spaced ∧ character = '#' then
        modify fun draft => { draft with signs := afterLine draft.signs }
        return chunks
      else
        match character with
        | '(' => return (← readGroup fuel depth flags) ++ chunks
        | '[' => return .one (← readSetPart flags) :: chunks
        | '.' => return .one (.anyCharacter flags) :: chunks
        | '^' => return ⟨[.place flags .lineStart], .place⟩ :: chunks
        | '$' => return ⟨[.place flags .lineEnd], .place⟩ :: chunks
        | _ =>
            match ← readCount (.plain character :: (← get).signs) with
            | some (count, rest) =>
                modify fun draft => { draft with signs := rest }
                countLast flags count chunks
            | none => return .one (.letter flags false character.toNat) :: chunks
termination_by structural fuel => fuel

/-- A group after its opening parenthesis: no chunk for a remark, else one. -/
def readGroup : Nat → Nat → Flags → Reader (List Chunk)
  | 0, _, _ => throw .malformed
  | fuel + 1, depth, flags => do
      match ← take readOpening with
      | .remark => return []
      | .numbered => return [.one (← readRemembered fuel depth flags none)]
      | .named name => return [.one (← readRemembered fuel depth flags (some name))]
      | .scope added removed =>
          let parts ← readChoice fuel depth (flags.changed added removed)
          demand ')'
          if added = [] ∧ removed = [] then return [⟨parts, .yes⟩]
          else return [.one (.enclosed id parts)]
      | .firstWay =>
          let parts ← readChoice fuel depth flags
          demand ')'
          return [.one (.plain (.firstWay (Part.sequence parts)) (Part.totalWidth parts))]
      | .ahead negated =>
          let parts ← readChoice fuel depth flags
          demand ')'
          return [.one (.plain (.ahead negated (Part.sequence parts)) .zero)]
      | .behind negated =>
          let barred ← barGroups
          let parts ← readChoice fuel depth flags
          let part ← lookBehind negated barred parts
          demand ')'
          return [.one part]
      | .sameAs name =>
          match (← get).names.lookup name with
          | some number => return [.one (.sameAs flags number (← referredWidth number))]
          | none => throw .malformed
      | .given name =>
          let number ← readCondition name
          let present ← readBranch fuel depth flags []
          let absent ← if ← accept '|' then readBranch fuel depth flags [] else pure []
          demand ')'
          return [.one (conditional number present absent)]
termination_by structural fuel => fuel

/-- A group whose place is remembered. -/
def readRemembered : Nat → Nat → Flags → Option String → Reader Part
  | 0, _, _, _ => throw .malformed
  | fuel + 1, depth, flags, name => do
      let number ← openGroup name
      let parts ← readChoice fuel depth flags
      demand ')'
      closeGroup number parts
termination_by structural fuel => fuel

end

/-! ## Whole patterns -/

/-- The flags for a whole pattern, which stand before everything else. Remarks may stand between
them, and blanks once they do not count. -/
def readLeadingFlags : Nat → Flags → List Sign → Flags × List Sign
  | fuel + 1, flags, .plain '(' :: .plain '?' :: .plain '#' :: rest =>
      match afterRemark rest with
      | .ok after => readLeadingFlags fuel flags after
      | .error _ => (flags, .plain '(' :: .plain '?' :: .plain '#' :: rest)
  | fuel + 1, flags, .plain '(' :: .plain '?' :: rest =>
      match readFlagScope rest with
      | .ok (.whole added, after) => readLeadingFlags fuel (flags ++ added) after
      | _ => (flags, .plain '(' :: .plain '?' :: rest)
  | fuel + 1, flags, .plain character :: rest =>
      if flags.contains .spaced ∧ isSpacing character then readLeadingFlags fuel flags rest
      else if flags.contains .spaced ∧ character = '#' then
        readLeadingFlags fuel flags (afterLine rest)
      else (flags, .plain character :: rest)
  | _, flags, signs => (flags, signs)

/-- The number of levels that groups may be nested in. -/
def depthLimit : Nat := 489

/-- The pattern that a text notes, or why it notes none. -/
def ofString (text : String) : Except NotationFault Pattern := do
  let all := signsOf text.toList
  let (flags, signs) := readLeadingFlags (all.length + 1) [] all
  let (parts, draft) ← (readChoice (4 * signs.length + 4) depthLimit flags).run (.ofSigns signs)
  if flags.namesBoth then .error .twoAlphabets
  else if draft.signs ≠ [] ∨ draft.refused ∨ draft.promised.any (draft.opened < ·) then
    .error .malformed
  else .ok (Part.sought flags parts).withoutIdleGroups

end TemplateBundle.Pattern
