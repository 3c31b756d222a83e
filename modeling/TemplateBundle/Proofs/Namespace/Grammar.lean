import TemplateBundle.Proofs.Namespace.Chunks

/-!
Contract: which texts are namespace paths, and what they name.

Owns: the spellings of a path, piece by piece, what a spelling names, that every path that is
read is spelled so without a character left over, that blanks around a path change nothing of it,
and that every spelling whose contents can be read in one way is read as it was meant.

The two directions differ in one point only: a content that holds its own quote, or a bare one
that begins with a quote, may still be read, though not always as it was meant.
-/

namespace TemplateBundle.Namespace

open TemplateBundle.Text

/-- A piece of a path as it is written. -/
inductive Piece where
  | plain (run : List Char)
  | bracketed (before : List Char) (quote : Option Char) (content after : List Char)

namespace Piece

def text : Piece → List Char
  | .plain run => run
  | .bracketed before quote content after => bracketText before quote content after

/-- The segment that a piece stands for. -/
def value : Piece → List Char
  | .plain run => trim run
  | .bracketed _ _ content _ => content

def chunk : Piece → Chunk
  | .plain run => .plain run
  | .bracketed _ _ content _ => .bracketed content

/-- A plain run holds no marks and more than blanks. A bracketed segment holds a content on one
line, between quotes of one kind or none, with blanks around them. -/
def IsWellFormed : Piece → Prop
  | .plain run => (∀ character ∈ run, isMark character = false) ∧ ¬ AreBlanks run
  | .bracketed before quote content after =>
      AreBlanks before ∧ IsQuote quote ∧ content ≠ [] ∧ '\n' ∉ content ∧ AreBlanks after

/-- What the piece holds can be read in one way only. -/
def IsSettled : Piece → Prop
  | .plain _ => True
  | .bracketed _ quote content _ => Namespace.IsSettled quote content

/-- Two pieces next to each other need a dot between them. -/
def NeedsDot : Piece → Prop
  | .plain _ => True
  | .bracketed _ _ _ _ => False

end Piece

/-- A piece after others, with a dot before it or without. -/
structure Link where
  dotted : Bool
  piece : Piece

namespace Link

def text (link : Link) : List Char := (if link.dotted then ['.'] else []) ++ link.piece.text

def IsWellFormed (link : Link) : Prop :=
  link.piece.IsWellFormed ∧ (link.piece.NeedsDot → link.dotted = true)

end Link

/-- A path as it is written: a first piece and others after it. -/
structure Spelling where
  first : Piece
  others : List Link

namespace Spelling

def text (spelling : Spelling) : List Char :=
  spelling.first.text ++ spelling.others.flatMap Link.text

/-- The segments that the pieces stand for. -/
def values (spelling : Spelling) : List (List Char) :=
  spelling.first.value :: spelling.others.map fun link => link.piece.value

/-- The segments that the path names: those of all pieces, without the first if it is the root. -/
def named (spelling : Spelling) : List String :=
  (if spelling.first.value = "this".toList then spelling.values.tail else spelling.values).map
    String.ofList

structure IsWellFormed (spelling : Spelling) : Prop where
  first : spelling.first.IsWellFormed
  others : ∀ link ∈ spelling.others, link.IsWellFormed

structure IsSettled (spelling : Spelling) : Prop where
  first : spelling.first.IsSettled
  others : ∀ link ∈ spelling.others, link.piece.IsSettled

end Spelling

variable {gap run content text rest : List Char} {first : Bool} {chunks : List Chunk}
  {found : List (List Char)}

/-! ### From chunks to segments -/

private theorem map_cons_iff {outcome : Except PathFault (List (List Char))} {segment : List Char} :
    outcome.map (segment :: ·) = .ok found ↔
      ∃ later, outcome = .ok later ∧ found = segment :: later := by
  cases outcome with
  | error fault => simp [Except.map]
  | ok later => simp [Except.map, eq_comm]

theorem segmentsOf_plain_iff : segmentsOf first gap (.plain run :: chunks) = .ok found ↔
    gap = (if first = true then [] else ['.']) ∧ ¬ AreBlanks run ∧
      ∃ later, segmentsOf false [] chunks = .ok later ∧ found = trim run :: later := by
  rw [segmentsOf, ← trim_eq_nil_iff, ← map_cons_iff]
  by_cases fits : gap = (if first = true then [] else ['.'])
  · rw [if_neg (not_not.mpr fits)]
    by_cases blanks : trim run = []
    · simp [blanks]
    · simp [blanks, fits]
  · simp [fits]

theorem segmentsOf_bracketed_iff : segmentsOf first gap (.bracketed content :: chunks) = .ok found ↔
    (gap = [] ∨ first = false ∧ gap = ['.']) ∧ content ≠ [] ∧
      ∃ later, segmentsOf false [] chunks = .ok later ∧ found = content :: later := by
  rw [segmentsOf, ← map_cons_iff]
  by_cases refused : gap ≠ [] ∧ (first = true ∨ gap ≠ ['.'])
  · rw [if_pos refused]
    cases first <;> simp_all
  · have accepted : gap = [] ∨ first = false ∧ gap = ['.'] := by
      cases first
      · simp_all
        tauto
      · simp_all
    rw [if_neg refused]
    by_cases none : content = []
    · simp [none]
    · simp [none, accepted]

/-! ### Every path that is read is spelled -/

/-- What is read after a first segment is spelled by pieces that hang together. -/
theorem links_of_segmentsOf (spelled : Spelled chunks text)
    (reads : segmentsOf false gap chunks = .ok found) :
    ∃ links : List Link, (∀ link ∈ links, link.IsWellFormed) ∧
      gap ++ text = links.flatMap Link.text ∧ found = links.map fun link => link.piece.value := by
  induction spelled generalizing gap found with
  | nil =>
      have none : gap = [] := by
        by_contra some
        simp [segmentsOf, some] at reads
      subst none
      exact ⟨[], by simp, rfl, (Except.ok.inj reads).symm⟩
  | cons spells _ inductionHypothesis =>
      cases spells with
      | plain some noMark =>
          obtain ⟨rfl, notBlank, later, next, rfl⟩ := segmentsOf_plain_iff.mp reads
          obtain ⟨links, wellFormed, rest, rfl⟩ := inductionHypothesis next
          refine ⟨⟨true, .plain _⟩ :: links, ?_, by simp [← rest, Link.text, Piece.text], rfl⟩
          exact List.forall_mem_cons.mpr ⟨⟨⟨noMark, notBlank⟩, fun _ => rfl⟩, wellFormed⟩
      | @bracketed before content after quote blankBefore isQuote oneLine blankAfter =>
          obtain ⟨fits, some, later, next, rfl⟩ := segmentsOf_bracketed_iff.mp reads
          obtain ⟨links, wellFormed, rest, rfl⟩ := inductionHypothesis next
          refine ⟨⟨gap = ['.'], .bracketed before quote content after⟩ :: links, ?_, ?_, rfl⟩
          · exact List.forall_mem_cons.mpr ⟨⟨⟨blankBefore, isQuote, some, oneLine, blankAfter⟩,
              fun never => never.elim⟩, wellFormed⟩
          · rcases fits with rfl | ⟨_, rfl⟩ <;> simp [← rest, Link.text, Piece.text]
      | @stray character mark =>
          rw [segmentsOf] at reads
          obtain ⟨links, wellFormed, rest, same⟩ := inductionHypothesis reads
          exact ⟨links, wellFormed, by simpa using rest, same⟩

/-- What is read at all is nothing, or it is spelled from its first character to its last. -/
theorem spelling_of_segmentsOf (spelled : Spelled chunks text)
    (reads : segmentsOf true gap chunks = .ok found) :
    found = [] ∨ ∃ spelling : Spelling, spelling.IsWellFormed ∧
      gap ++ text = spelling.text ∧ found = spelling.values := by
  induction spelled generalizing gap found with
  | nil =>
      left
      rw [segmentsOf] at reads
      split at reads
      · exact (Except.ok.inj reads).symm
      · simp at reads
  | cons spells rest inductionHypothesis =>
      cases spells with
      | plain some noMark =>
          obtain ⟨rfl, notBlank, later, next, rfl⟩ := segmentsOf_plain_iff.mp reads
          obtain ⟨links, wellFormed, same, rfl⟩ := links_of_segmentsOf rest next
          refine .inr ⟨⟨.plain _, links⟩, ⟨⟨noMark, notBlank⟩, wellFormed⟩, ?_, rfl⟩
          simp [Spelling.text, Piece.text, ← same]
      | @bracketed before content after quote blankBefore isQuote oneLine blankAfter =>
          obtain ⟨rfl | ⟨never, _⟩, some, later, next, rfl⟩ := segmentsOf_bracketed_iff.mp reads
          · obtain ⟨links, wellFormed, same, rfl⟩ := links_of_segmentsOf rest next
            refine .inr ⟨⟨.bracketed before quote content after, links⟩,
              ⟨⟨blankBefore, isQuote, some, oneLine, blankAfter⟩, wellFormed⟩, ?_, rfl⟩
            simp [Spelling.text, Piece.text, ← same]
          · exact Bool.noConfusion never
      | @stray character mark =>
          rw [segmentsOf] at reads
          rcases inductionHypothesis reads with none | ⟨spelling, wellFormed, same, values⟩
          · exact .inl none
          · exact .inr ⟨spelling, wellFormed, by simpa using same, values⟩

/-! ### Every spelling that can be read in one way is read so -/

theorem chunks_piece {piece : Piece} (wellFormed : piece.IsWellFormed) (settled : piece.IsSettled)
    (stops : ∀ next ∈ rest.head?, isMark next = true) :
    Namespace.chunks (piece.text ++ rest) = piece.chunk :: Namespace.chunks rest := by
  cases piece with
  | plain run =>
      obtain ⟨noMark, notBlank⟩ := wellFormed
      refine chunks_plain ?_ noMark stops
      rintro rfl
      exact notBlank (by simp [AreBlanks])
  | bracketed before quote content after =>
      obtain ⟨blankBefore, isQuote, some, oneLine, blankAfter⟩ := wellFormed
      exact chunks_bracketText blankBefore isQuote oneLine settled some blankAfter

theorem segmentsOf_piece {piece : Piece} (wellFormed : piece.IsWellFormed)
    (fits : gap = (if first = true then [] else ['.']) ∨ gap = [] ∧ ¬ piece.NeedsDot)
    (later : segmentsOf false [] chunks = .ok found) :
    segmentsOf first gap (piece.chunk :: chunks) = .ok (piece.value :: found) := by
  cases piece with
  | plain run =>
      obtain ⟨_, notBlank⟩ := wellFormed
      have fits : gap = (if first = true then [] else ['.']) :=
        fits.resolve_right fun never => never.2 trivial
      exact segmentsOf_plain_iff.mpr ⟨fits, notBlank, found, later, rfl⟩
  | bracketed before quote content after =>
      obtain ⟨_, _, some, _, _⟩ := wellFormed
      refine segmentsOf_bracketed_iff.mpr ⟨?_, some, found, later, rfl⟩
      cases first with
      | true => exact .inl (fits.elim id And.left)
      | false => exact fits.elim (fun dot => .inr ⟨rfl, dot⟩) fun none => .inl none.1

/-- A piece after others begins with a mark. -/
theorem links_stop {links : List Link} (wellFormed : ∀ link ∈ links, link.IsWellFormed) :
    ∀ next ∈ (links.flatMap Link.text).head?, isMark next = true := by
  cases links with
  | nil => simp
  | cons link rest =>
      obtain ⟨_, dotted⟩ := wellFormed link (by simp)
      obtain ⟨dot, piece⟩ := link
      cases dot with
      | true => simp [Link.text, isMark]
      | false =>
          cases piece with
          | plain run => exact Bool.noConfusion (dotted trivial)
          | bracketed before quote content after =>
              simp [Link.text, Piece.text, bracketText, isMark]

theorem segmentsOf_links {links : List Link} (wellFormed : ∀ link ∈ links, link.IsWellFormed)
    (settled : ∀ link ∈ links, link.piece.IsSettled) :
    segmentsOf false [] (Namespace.chunks (links.flatMap Link.text)) =
      .ok (links.map fun link => link.piece.value) := by
  induction links with
  | nil => rfl
  | cons link rest inductionHypothesis =>
      rw [List.forall_mem_cons] at wellFormed settled
      have later := inductionHypothesis wellFormed.2 settled.2
      obtain ⟨⟨wellFormedPiece, dotted⟩, wellFormedRest⟩ := wellFormed
      have reads := chunks_piece wellFormedPiece settled.1 (links_stop wellFormedRest)
      obtain ⟨dot, piece⟩ := link
      rw [List.flatMap_cons, List.map_cons]
      cases dot with
      | true =>
          show segmentsOf false [] (Namespace.chunks ('.' :: (piece.text ++ _))) = _
          rw [chunks_dot, segmentsOf, reads]
          exact segmentsOf_piece wellFormedPiece (.inl rfl) later
      | false =>
          show segmentsOf false [] (Namespace.chunks (piece.text ++ _)) = _
          rw [reads]
          refine segmentsOf_piece wellFormedPiece (.inr ⟨rfl, fun needsDot => ?_⟩) later
          exact Bool.noConfusion (dotted needsDot)

theorem segmentsOf_spelling {spelling : Spelling} (wellFormed : spelling.IsWellFormed)
    (settled : spelling.IsSettled) :
    segmentsOf true [] (Namespace.chunks spelling.text) = .ok spelling.values := by
  have later := segmentsOf_links wellFormed.others settled.others
  rw [Spelling.text, chunks_piece wellFormed.first settled.first (links_stop wellFormed.others)]
  exact segmentsOf_piece wellFormed.first (.inl rfl) later

/-! ### Blanks around a path -/

namespace Piece

/-- The piece with its plain run changed. A bracketed segment stays as it is. -/
def onRun (change : List Char → List Char) : Piece → Piece
  | .plain run => .plain (change run)
  | .bracketed before quote content after => .bracketed before quote content after

variable {piece : Piece} {change : List Char → List Char}

theorem onRun_isWellFormed (within : ∀ run, change run ⊆ run)
    (same : ∀ run, trim (change run) = trim run) (wellFormed : piece.IsWellFormed) :
    (piece.onRun change).IsWellFormed := by
  cases piece with
  | plain run =>
      obtain ⟨noMark, notBlank⟩ := wellFormed
      refine ⟨fun character member => noMark character (within run member), ?_⟩
      rw [← trim_eq_nil_iff, same, trim_eq_nil_iff]
      exact notBlank
  | bracketed before quote content after => exact wellFormed

theorem onRun_isSettled (settled : piece.IsSettled) : (piece.onRun change).IsSettled := by
  cases piece with
  | plain run => trivial
  | bracketed before quote content after => exact settled

theorem onRun_value (same : ∀ run, trim (change run) = trim run) :
    (piece.onRun change).value = piece.value := by
  cases piece with
  | plain run => exact same run
  | bracketed before quote content after => rfl

theorem trimStart_text_append (wellFormed : piece.IsWellFormed) (rest : List Char) :
    trimStart (piece.text ++ rest) = (piece.onRun trimStart).text ++ rest := by
  cases piece with
  | plain run => exact trimStart_append wellFormed.2 rest
  | bracketed before quote content after =>
      have notBlank : isBlank '[' = false := by decide
      exact List.dropWhile_cons_of_neg (by simp [notBlank])

theorem trimEnd_append_text (wellFormed : piece.IsWellFormed) (front : List Char) :
    trimEnd (front ++ piece.text) = front ++ (piece.onRun trimEnd).text := by
  cases piece with
  | plain run => exact trimEnd_append front wellFormed.2
  | bracketed before quote content after =>
      have notBlank : isBlank ']' = false := by decide
      obtain ⟨inner, ends⟩ : ∃ inner, bracketText before quote content after = inner ++ [']'] :=
        ⟨'[' :: (before ++ (quote.toList ++ (content ++ (quote.toList ++ after)))), by
          simp [bracketText, bracketInside]⟩
      show trimEnd (front ++ bracketText before quote content after) =
        front ++ bracketText before quote content after
      rw [ends, ← List.append_assoc]
      simp [trimEnd, notBlank]

end Piece

/-- Blanks before a path change nothing of what it spells. -/
theorem exists_spelling_trimStart {spelling : Spelling} (wellFormed : spelling.IsWellFormed)
    (settled : spelling.IsSettled) :
    ∃ bare : Spelling, bare.IsWellFormed ∧ bare.IsSettled ∧ bare.values = spelling.values ∧
      bare.text = trimStart spelling.text := by
  have within (run : List Char) : trimStart run ⊆ run := (List.dropWhile_suffix isBlank).subset
  refine ⟨⟨spelling.first.onRun trimStart, spelling.others⟩, ?_, ?_, ?_, ?_⟩
  · exact ⟨Piece.onRun_isWellFormed within trim_trimStart wellFormed.first, wellFormed.others⟩
  · exact ⟨Piece.onRun_isSettled settled.first, settled.others⟩
  · exact congrArg (· :: _) (Piece.onRun_value trim_trimStart)
  · exact (Piece.trimStart_text_append wellFormed.first _).symm

/-- Blanks after a path change nothing of what it spells. -/
theorem exists_spelling_trimEnd {spelling : Spelling} (wellFormed : spelling.IsWellFormed)
    (settled : spelling.IsSettled) :
    ∃ bare : Spelling, bare.IsWellFormed ∧ bare.IsSettled ∧ bare.values = spelling.values ∧
      bare.text = trimEnd spelling.text := by
  have within (run : List Char) : trimEnd run ⊆ run := (List.rdropWhile_prefix isBlank run).subset
  obtain ⟨first, others⟩ := spelling
  rcases List.eq_nil_or_concat others with rfl | ⟨front, last, rfl⟩
  · refine ⟨⟨first.onRun trimEnd, []⟩, ?_, ?_, ?_, ?_⟩
    · exact ⟨Piece.onRun_isWellFormed within trim_trimEnd wellFormed.first, wellFormed.others⟩
    · exact ⟨Piece.onRun_isSettled settled.first, settled.others⟩
    · exact congrArg (· :: _) (Piece.onRun_value trim_trimEnd)
    · have ends := Piece.trimEnd_append_text wellFormed.first []
      simpa [Spelling.text] using ends.symm
  · obtain ⟨wellFormedFirst, wellFormedOthers⟩ := wellFormed
    obtain ⟨settledFirst, settledOthers⟩ := settled
    simp only [List.concat_eq_append, List.forall_mem_append, List.forall_mem_singleton]
      at wellFormedOthers settledOthers
    obtain ⟨wellFormedFront, wellFormedLast, dotted⟩ := wellFormedOthers
    refine ⟨⟨first, front ++ [⟨last.dotted, last.piece.onRun trimEnd⟩]⟩, ?_, ?_, ?_, ?_⟩
    · refine ⟨wellFormedFirst, List.forall_mem_append.mpr ⟨wellFormedFront, ?_⟩⟩
      refine List.forall_mem_singleton.mpr ⟨?_, fun needsDot => dotted ?_⟩
      · exact Piece.onRun_isWellFormed within trim_trimEnd wellFormedLast
      · revert needsDot
        cases last.piece <;> exact id
    · refine ⟨settledFirst, List.forall_mem_append.mpr ⟨settledOthers.1, ?_⟩⟩
      exact List.forall_mem_singleton.mpr (Piece.onRun_isSettled settledOthers.2)
    · simp [Spelling.values, Piece.onRun_value trim_trimEnd]
    · have ends := Piece.trimEnd_append_text wellFormedLast
        (first.text ++ (front.flatMap Link.text ++ if last.dotted then ['.'] else []))
      simpa [Spelling.text, Link.text] using ends.symm

/-! ### Which texts are paths -/

/-- The segments that are left without the root are those that the path names. -/
theorem dropRoot_values (spelling : Spelling) :
    (dropRoot spelling.values).map String.ofList = spelling.named := by
  have root : "this".toList = rootSegment := by decide
  rw [Spelling.named, root]
  by_cases isRoot : spelling.first.value = rootSegment
  · rw [if_pos isRoot, Spelling.values, dropRoot, if_pos isRoot, List.tail_cons]
  · rw [if_neg isRoot, Spelling.values, dropRoot, if_neg isRoot]

/-- What is read of a path is what a spelling of its whole text names. -/
theorem spelling_of_split {path : String} {found : List String} (reads : split path = .ok found) :
    found ≠ [] ∧ ∃ spelling : Spelling, spelling.IsWellFormed ∧
      (strip path).toList = spelling.text ∧ found = spelling.named := by
  unfold split segments at reads
  cases cut : segmentsOf true [] (chunks (trim path.toList)) with
  | error fault => simp [cut] at reads
  | ok values =>
      have left : dropRoot values ≠ [] := by
        intro none
        simp [cut, none] at reads
      simp only [cut, if_neg left] at reads
      obtain rfl := Except.ok.inj reads
      rcases spelling_of_segmentsOf (chunks_spelled _) cut with
        rfl | ⟨spelling, wellFormed, same, rfl⟩
      · exact absurd rfl left
      · refine ⟨by simpa using left, spelling, wellFormed, ?_, dropRoot_values spelling⟩
        rw [← same]
        simp [strip]

/-- What a spelling names is read of its text, where its contents can be read in one way. -/
theorem split_spelling {spelling : Spelling} (wellFormed : spelling.IsWellFormed)
    (settled : spelling.IsSettled) :
    split (String.ofList spelling.text) =
      if spelling.named = [] then .error (.noSegments (String.ofList spelling.text))
      else .ok spelling.named := by
  obtain ⟨late, wellFormedLate, settledLate, lateValues, lateText⟩ :=
    exists_spelling_trimStart wellFormed settled
  obtain ⟨bare, wellFormedBare, settledBare, bareValues, bareText⟩ :=
    exists_spelling_trimEnd wellFormedLate settledLate
  have cut : segmentsOf true [] (chunks (trim spelling.text)) = .ok spelling.values := by
    rw [← lateValues, ← bareValues, ← segmentsOf_spelling wellFormedBare settledBare, bareText,
      lateText]
    rfl
  unfold split segments
  rw [String.toList_ofList, cut, ← dropRoot_values]
  by_cases none : dropRoot spelling.values = []
  · simp [none, PathFault.config]
  · simp [none]

/-- A namespace path is read exactly as it is spelled. What is read was spelled by the whole
path, and a path that is spelled so that each content can be read in one way is read as that, or
refused if it names nothing. -/
theorem split_grammar :
    (∀ path found, split path = .ok found →
      found ≠ [] ∧ ∃ spelling : Spelling, spelling.IsWellFormed ∧
        (strip path).toList = spelling.text ∧ found = spelling.named) ∧
    ∀ spelling : Spelling, spelling.IsWellFormed → spelling.IsSettled →
      split (String.ofList spelling.text) =
        if spelling.named = [] then .error (.noSegments (String.ofList spelling.text))
        else .ok spelling.named :=
  ⟨fun _ _ reads => spelling_of_split reads,
    fun _ wellFormed settled => split_spelling wellFormed settled⟩

/-- `this.App [ "my.views" ]`, where the blank before the bracket belongs to the plain run. -/
def rootedViews : Spelling where
  first := .plain "this".toList
  others := [⟨true, .plain "App ".toList⟩,
    ⟨false, .bracketed [' '] (some '"') "my.views".toList [' ']⟩]

theorem split_grammar_of_rooted_views :
    (split " this.App.Views" = .ok ["App", "Views"] ∧ ["App", "Views"] ≠ [] ∧
      ∃ spelling : Spelling, spelling.IsWellFormed ∧
        (strip " this.App.Views").toList = spelling.text ∧ ["App", "Views"] = spelling.named) ∧
    rootedViews.IsWellFormed ∧ rootedViews.IsSettled ∧
      split "this.App [ \"my.views\" ]" = .ok ["App", "my.views"] := by
  have reads : split " this.App.Views" = .ok ["App", "Views"] := rfl
  have wellFormed : rootedViews.IsWellFormed := by
    refine ⟨⟨by simp [isMark], by decide⟩, ?_⟩
    refine List.forall_mem_cons.mpr ⟨⟨⟨by simp [isMark], by decide⟩, fun _ => rfl⟩, ?_⟩
    refine List.forall_mem_singleton.mpr ⟨⟨by decide, .inr (.inl rfl), ?_⟩, fun never => never.elim⟩
    exact ⟨by decide, by decide, by decide⟩
  have settled : rootedViews.IsSettled :=
    ⟨trivial, by simp [rootedViews, Piece.IsSettled, IsSettled]⟩
  have text : String.ofList rootedViews.text = "this.App [ \"my.views\" ]" := by decide
  have named : rootedViews.named = ["App", "my.views"] := by decide
  have complete := split_grammar.2 rootedViews wellFormed settled
  rw [text, named] at complete
  exact ⟨⟨reads, split_grammar.1 _ _ reads⟩, wellFormed, settled, complete⟩

end TemplateBundle.Namespace
