import Mathlib.Data.List.TakeWhile
import TemplateBundle.Namespace.Notation
import TemplateBundle.Proofs.Text.Blank

/-!
Contract: the chunks that a path text is cut into.

Owns: the texts that spell a chunk, that the chunks of a text spell it from end to end, and the
plain runs and bracketed segments that are cut off as they were written.

Does not own: which chunks make up a path (`Proofs.Namespace.Grammar`).
-/

namespace TemplateBundle.Namespace

open TemplateBundle.Text

/-- What may stand on both sides of the content of a bracketed segment. -/
def IsQuote (quote : Option Char) : Prop := quote = none ∨ quote = some '"' ∨ quote = some '\''

/-- A bracketed segment after its opening bracket: blanks, a quote or none, the content, the
quote again, blanks, and the closing bracket. -/
def bracketInside (before : List Char) (quote : Option Char) (content after : List Char) :
    List Char :=
  before ++ (quote.toList ++ (content ++ (quote.toList ++ (after ++ [']']))))

/-- A bracketed segment as it is written. -/
def bracketText (before : List Char) (quote : Option Char) (content after : List Char) :
    List Char :=
  '[' :: bracketInside before quote content after

/-- The texts that spell a chunk. -/
inductive Chunk.Spells : Chunk → List Char → Prop
  | plain {run : List Char} : run ≠ [] → (∀ character ∈ run, isMark character = false) →
      Spells (.plain run) run
  | bracketed {before content after : List Char} {quote : Option Char} : AreBlanks before →
      IsQuote quote → '\n' ∉ content → AreBlanks after →
      Spells (.bracketed content) (bracketText before quote content after)
  | stray {character : Char} : isMark character = true → Spells (.stray character) [character]

/-- Chunks that spell a text one after the other. -/
inductive Spelled : List Chunk → List Char → Prop
  | nil : Spelled [] []
  | cons {chunk : Chunk} {chunks : List Chunk} {text rest : List Char} : chunk.Spells text →
      Spelled chunks rest → Spelled (chunk :: chunks) (text ++ rest)

section Closing

variable {characters content tail : List Char} {quote : Option Char} {size last : Nat}

/-! ### Where a bracketed segment ends -/

theorem closing?_iff : closing? characters = some size ↔
    ∃ blanks rest, AreBlanks blanks ∧ characters = blanks ++ ']' :: rest ∧
      size = blanks.length + 1 := by
  constructor
  · intro found
    unfold closing? at found
    split at found
    · rename_i rest dropped
      refine ⟨characters.takeWhile isBlank, rest, fun character member => ?_, ?_, ?_⟩
      · exact List.mem_takeWhile_imp member
      · rw [← dropped, List.takeWhile_append_dropWhile]
      · exact (Option.some.inj found).symm
    · simp at found
  · rintro ⟨blanks, rest, blank, rfl, rfl⟩
    have bracket : isBlank ']' = false := by decide
    unfold closing?
    rw [List.dropWhile_append_of_pos blank, List.takeWhile_append_of_pos blank]
    simp [bracket]

theorem segmentEnd?_iff : segmentEnd? quote characters = some size ↔
    ∃ blanks rest, AreBlanks blanks ∧
      characters = quote.toList ++ (blanks ++ ']' :: rest) ∧
      size = quote.toList.length + (blanks.length + 1) := by
  cases quote with
  | none => simpa [segmentEnd?] using closing?_iff
  | some mark =>
      cases characters with
      | nil => simp [segmentEnd?]
      | cons character rest =>
          by_cases same : character = mark
          · subst same
            simp only [segmentEnd?, if_true, Option.map_eq_some_iff, closing?_iff]
            constructor
            · rintro ⟨_, ⟨blanks, more, blank, rfl, rfl⟩, rfl⟩
              exact ⟨blanks, more, blank, rfl, by simp; omega⟩
            · rintro ⟨blanks, more, blank, split, rfl⟩
              refine ⟨_, ⟨blanks, more, blank, (List.cons.inj split).2, rfl⟩, by simp; omega⟩
          · simp [segmentEnd?, same]

/-- The content ends where its closing begins, on the line that it began on. -/
theorem content?_sound (found : content? quote characters = some (content, size)) :
    '\n' ∉ content ∧ ∃ tail last, characters = content ++ tail ∧
      segmentEnd? quote tail = some last ∧ size = content.length + last := by
  induction characters generalizing content size with
  | nil => simp [content?] at found
  | cons character rest inductionHypothesis =>
      rw [content?] at found
      split at found
      · rename_i last ends
        obtain ⟨rfl, rfl⟩ := Prod.mk.inj (Option.some.inj found)
        exact ⟨by simp, _, last, rfl, ends, by simp⟩
      · split at found
        · simp at found
        · rename_i sameLine
          obtain ⟨⟨more, length⟩, next, same⟩ := Option.map_eq_some_iff.mp found
          obtain ⟨rfl, rfl⟩ := Prod.mk.inj same
          obtain ⟨oneLine, tail, last, rfl, ends, rfl⟩ := inductionHypothesis next
          refine ⟨?_, tail, last, rfl, ends, by simp; omega⟩
          rw [List.mem_cons, not_or]
          exact ⟨Ne.symm sameLine, oneLine⟩

/-- A content that no closing begins in is read to its end. -/
theorem content?_complete (oneLine : '\n' ∉ content) (ends : segmentEnd? quote tail = some last)
    (noneBefore : ∀ back, back <:+ content → back ≠ [] →
      segmentEnd? quote (back ++ tail) = none) :
    content? quote (content ++ tail) = some (content, content.length + last) := by
  induction content with
  | nil =>
      cases tail with
      | nil => cases quote <;> simp [segmentEnd?, closing?] at ends
      | cons character rest => simp [content?, ends]
  | cons character more inductionHypothesis =>
      rw [List.mem_cons, not_or] at oneLine
      have goesOn : segmentEnd? quote (character :: (more ++ tail)) = none :=
        noneBefore _ List.suffix_rfl (by simp)
      have next := inductionHypothesis oneLine.2 fun back isSuffix =>
        noneBefore back (isSuffix.trans (List.suffix_cons character more))
      rw [List.cons_append, content?, goesOn]
      dsimp only
      rw [if_neg (Ne.symm oneLine.1), next]
      simp
      omega

end Closing

/-! ### Bracketed segments -/

section Bracketed

variable {characters before content after rest : List Char} {quote : Option Char} {size : Nat}

theorem bracketInside_append (before : List Char) (quote : Option Char)
    (content after rest : List Char) :
    bracketInside before quote content after ++ rest =
      before ++ (quote.toList ++ (content ++ (quote.toList ++ (after ++ ']' :: rest)))) := by
  simp [bracketInside]

theorem openingQuote?_isQuote (characters : List Char) : IsQuote (openingQuote? characters) := by
  unfold openingQuote? IsQuote
  split <;> simp

theorem openingQuote?_drop {mark : Char} (opens : openingQuote? characters = some mark) :
    characters = mark :: characters.drop 1 := by
  unfold openingQuote? at opens
  split at opens
  · rw [← Option.some.inj opens]
    rfl
  · rw [← Option.some.inj opens]
    rfl
  · simp at opens

theorem IsQuote.not_isBlank {mark : Char} (isQuote : IsQuote (some mark)) :
    isBlank mark = false := by
  rcases isQuote with never | same | same
  · simp at never
  all_goals
    obtain rfl := Option.some.inj same
    decide

theorem IsQuote.opens {mark : Char} (isQuote : IsQuote (some mark)) (rest : List Char) :
    openingQuote? (mark :: rest) = some mark := by
  rcases isQuote with never | same | same
  · simp at never
  all_goals
    obtain rfl := Option.some.inj same
    rfl

/-- What a bracketed segment is read from. -/
theorem bracketed?_sound (found : bracketed? characters = some (content, size)) :
    ∃ before quote after, AreBlanks before ∧ IsQuote quote ∧ '\n' ∉ content ∧ AreBlanks after ∧
      '[' :: characters = bracketText before quote content after ++ characters.drop size := by
  -- Every reading is the content after the blanks and after the quote that is taken.
  suffices read : ∃ before quote inside last, AreBlanks before ∧ IsQuote quote ∧
      characters = before ++ (quote.toList ++ inside) ∧
      content? quote inside = some (content, last) ∧
      size = before.length + (quote.toList.length + last) by
    obtain ⟨before, quote, inside, last, blank, isQuote, rfl, reads, rfl⟩ := read
    obtain ⟨oneLine, tail, closes, rfl, ends, rfl⟩ := content?_sound reads
    obtain ⟨after, rest, blankAfter, rfl, rfl⟩ := segmentEnd?_iff.mp ends
    refine ⟨before, quote, after, blank, isQuote, oneLine, blankAfter, ?_⟩
    rw [← bracketInside_append, List.drop_left' (by simp [bracketInside])]
    rfl
  have split := (List.takeWhile_append_dropWhile (p := isBlank) (l := characters)).symm
  have blank : AreBlanks (characters.takeWhile isBlank) := fun _ => List.mem_takeWhile_imp
  unfold bracketed? at found
  obtain ⟨⟨text, length⟩, reads, same⟩ := Option.map_eq_some_iff.mp found
  obtain ⟨rfl, rfl⟩ := Prod.mk.inj same
  rcases Option.or_eq_some_iff.mp reads with quoted | ⟨_, bare⟩
  · obtain ⟨mark, opens, quoted⟩ := Option.bind_eq_some_iff.mp quoted
    obtain ⟨⟨inner, last⟩, inside, same⟩ := Option.map_eq_some_iff.mp quoted
    obtain ⟨rfl, rfl⟩ := Prod.mk.inj same
    rw [openingQuote?_drop opens] at split
    refine ⟨_, some mark, _, last, blank, ?_, split, inside, ?_⟩
    · exact opens ▸ openingQuote?_isQuote _
    · simp
      omega
  · exact ⟨_, none, _, length, blank, .inl rfl, split, bare, by simp; omega⟩

/-- The content can be read in one way only: between quotes it does not hold the quote, and
without quotes it holds no closing bracket, starts with no quote or blank and ends with no
blank. -/
def IsSettled : Option Char → List Char → Prop
  | some mark, content => mark ∉ content
  | none, content =>
      ']' ∉ content ∧
        (∀ first ∈ content.head?, isBlank first = false ∧ first ≠ '"' ∧ first ≠ '\'') ∧
        ∀ last ∈ content.getLast?, isBlank last = false

theorem segmentEnd?_none_of_isSettled {tail : List Char} (settled : IsSettled quote content) :
    ∀ back, back <:+ content → back ≠ [] → segmentEnd? quote (back ++ tail) = none := by
  intro back isSuffix some
  cases quote with
  | some mark =>
      cases back with
      | nil => exact absurd rfl some
      | cons first more =>
          have different : first ≠ mark := by
            rintro rfl
            exact settled (isSuffix.subset (by simp))
          simp [segmentEnd?, different]
  | none =>
      obtain ⟨noBracket, _, lastNotBlank⟩ := settled
      rw [Option.eq_none_iff_forall_ne_some]
      intro size found
      obtain ⟨blanks, rest, blank, split, _⟩ := closing?_iff.mp found
      -- What is not blank in the rest of the content would have to be the bracket.
      have last : back.getLast some ∉ blanks := by
        intro member
        obtain ⟨front, rfl⟩ := isSuffix
        have notBlank := lastNotBlank (back.getLast some) (by
          rw [List.getLast?_append, List.getLast?_eq_some_getLast some]
          rfl)
        rw [blank _ member] at notBlank
        exact Bool.noConfusion notBlank
      rcases List.append_eq_append_iff.mp split with ⟨more, rfl, _⟩ | ⟨more, rfl, next⟩
      · exact last (List.mem_append_left _ (List.getLast_mem some))
      · cases more with
        | nil => exact last (by simp)
        | cons bracket others =>
            obtain ⟨rfl, _⟩ := List.cons.inj next
            exact noBracket (isSuffix.subset (by simp))

/-- A bracketed segment whose content can be read in one way is read so. -/
theorem bracketed?_complete (blankBefore : AreBlanks before) (isQuote : IsQuote quote)
    (oneLine : '\n' ∉ content) (settled : IsSettled quote content) (some : content ≠ [])
    (blankAfter : AreBlanks after) (rest : List Char) :
    bracketed? (bracketInside before quote content after ++ rest) =
      Option.some (content, (bracketInside before quote content after).length) := by
  have ends : segmentEnd? quote (quote.toList ++ (after ++ ']' :: rest)) =
      Option.some (quote.toList.length + (after.length + 1)) :=
    segmentEnd?_iff.mpr ⟨after, rest, blankAfter, rfl, rfl⟩
  have reads := content?_complete oneLine ends (segmentEnd?_none_of_isSettled settled)
  obtain ⟨first, more, rfl⟩ := List.exists_cons_of_ne_nil some
  rw [bracketInside_append]
  unfold bracketed? bracketInside
  rw [List.takeWhile_append_of_pos blankBefore, List.dropWhile_append_of_pos blankBefore]
  cases quote with
  | none =>
      obtain ⟨notBlank, notDouble, notSingle⟩ := settled.2.1 first rfl
      have bare : openingQuote? (first :: (more ++ (after ++ ']' :: rest))) = none := by
        unfold openingQuote?
        split
        · exact absurd (List.cons.inj ‹_›).1 notDouble
        · exact absurd (List.cons.inj ‹_›).1 notSingle
        · rfl
      simp only [Option.toList_none, List.nil_append, List.cons_append] at reads ⊢
      rw [List.dropWhile_cons_of_neg (by simp [notBlank]),
        List.takeWhile_cons_of_neg (by simp [notBlank]), bare]
      simp [reads]
      omega
  | some mark =>
      have notBlank := isQuote.not_isBlank
      simp only [Option.toList_some, List.cons_append, List.nil_append] at reads ⊢
      simp [notBlank, isQuote.opens, reads]
      omega

end Bracketed

/-! ### Chunks -/

section Chunks

variable {before content after run rest : List Char} {quote : Option Char} {character : Char}

theorem chunksFrom_eq (taken : Nat) (characters : List Char) :
    chunksFrom taken characters = chunks (characters.drop taken) := by
  induction characters generalizing taken with
  | nil => cases taken <;> rfl
  | cons character rest inductionHypothesis =>
      cases taken with
      | zero => rfl
      | succ taken => exact inductionHypothesis taken

theorem chunks_cons (character : Char) (rest : List Char) :
    chunks (character :: rest) = (firstChunk character rest).1 ::
      chunks (rest.drop (firstChunk character rest).2) := by
  rw [← chunksFrom_eq]
  rfl

/-- The first chunk is spelled by what it takes. -/
theorem firstChunk_spells (character : Char) (rest : List Char) :
    ∃ text, (firstChunk character rest).1.Spells text ∧
      character :: rest = text ++ rest.drop (firstChunk character rest).2 := by
  unfold firstChunk
  by_cases mark : isMark character = true
  · rw [if_pos mark]
    split
    · rename_i content size found
      split at found
      · rename_i bracket
        obtain ⟨before, quote, after, blankBefore, isQuote, oneLine, blankAfter, split⟩ :=
          bracketed?_sound found
        exact ⟨_, .bracketed blankBefore isQuote oneLine blankAfter, bracket ▸ split⟩
      · simp at found
    · exact ⟨_, .stray mark, rfl⟩
  · rw [if_neg mark]
    refine ⟨_, .plain (by simp) ?_, ?_⟩
    · intro next member
      rcases List.mem_cons.mp member with rfl | inside
      · simpa using mark
      · simpa using List.mem_takeWhile_imp inside
    · exact congrArg (character :: ·)
        (List.prefix_iff_eq_append.mp (List.takeWhile_prefix _)).symm

/-- The chunks of a text spell it. -/
theorem chunks_spelled (characters : List Char) : Spelled (chunks characters) characters := by
  induction fits : characters.length using Nat.strong_induction_on generalizing characters with
  | _ length inductionHypothesis =>
    cases characters with
    | nil => exact .nil
    | cons character rest =>
        obtain ⟨text, spells, split⟩ := firstChunk_spells character rest
        have shorter : (rest.drop (firstChunk character rest).2).length < length := by
          rw [List.length_drop, ← fits, List.length_cons]
          omega
        have later := inductionHypothesis _ shorter _ rfl
        rw [chunks_cons]
        conv => rhs; rw [split]
        exact .cons spells later

theorem chunks_dot (rest : List Char) : chunks ('.' :: rest) = .stray '.' :: chunks rest := by
  rw [chunks_cons]
  rfl

/-- A plain run is cut off where a mark follows it or nothing. -/
theorem chunks_plain (some : run ≠ []) (noMark : ∀ character ∈ run, isMark character = false)
    (stops : ∀ next ∈ rest.head?, isMark next = true) :
    chunks (run ++ rest) = .plain run :: chunks rest := by
  obtain ⟨first, more, rfl⟩ := List.exists_cons_of_ne_nil some
  have runsOn : ∀ next ∈ more, (!isMark next) = true := by
    intro next member
    simp [noMark next (by simp [member])]
  have inside : (more ++ rest).takeWhile (fun next => !isMark next) = more := by
    rw [List.takeWhile_append_of_pos runsOn]
    cases rest with
    | nil => simp
    | cons next others =>
        rw [List.takeWhile_cons_of_neg (by simp [stops next rfl]), List.append_nil]
  have plain : firstChunk first (more ++ rest) = (.plain (first :: more), more.length) := by
    unfold firstChunk
    rw [if_neg (by simp [noMark first (by simp)])]
    dsimp only
    rw [inside]
  rw [List.cons_append, chunks_cons, plain, List.drop_left]

/-- A bracketed segment is cut off at its closing bracket. -/
theorem chunks_bracketText (blankBefore : AreBlanks before) (isQuote : IsQuote quote)
    (oneLine : '\n' ∉ content) (settled : IsSettled quote content) (some : content ≠ [])
    (blankAfter : AreBlanks after) :
    chunks (bracketText before quote content after ++ rest) =
      .bracketed content :: chunks rest := by
  have reads := bracketed?_complete blankBefore isQuote oneLine settled some blankAfter rest
  have bracket : firstChunk '[' (bracketInside before quote content after ++ rest) =
      (.bracketed content, (bracketInside before quote content after).length) := by
    unfold firstChunk
    rw [if_pos (by decide), if_pos rfl, reads]
  rw [bracketText, List.cons_append, chunks_cons, bracket, List.drop_left]

end Chunks

end TemplateBundle.Namespace
