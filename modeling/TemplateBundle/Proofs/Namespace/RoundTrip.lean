import TemplateBundle.Proofs.Namespace.Declarations
import TemplateBundle.Proofs.Namespace.Grammar
import TemplateBundle.Proofs.Text.Literal

/-!
Contract: the paths that are read back from their bracket form.

Owns: the segments that a bracket form keeps as they are, and the law that a path is read back
from it just where all its segments are such.

The bracket form escapes what it quotes, and the reader does not undo escapes. Where a segment is
escaped, what is read is not that segment, however the form is cut.
-/

namespace TemplateBundle.Namespace

open TemplateBundle.Text

variable {target : List String} {segment : String} {before after rest later : List Char}
  {quote : Option Char} {links : List Link}

/-- A bracket form holds the segment as it is: the segment is not empty, and all its characters
stand for themselves. -/
def IsKept (segment : String) : Prop :=
  segment ≠ "" ∧ ∀ character ∈ segment.toList, IsVerbatim character

instance : DecidablePred IsKept := fun segment =>
  @instDecidableAnd _ _ _ (List.decidableBAll IsVerbatim segment.toList)

/-- The bracket form of a path has no blanks at its ends. -/
theorem strip_bracketPath (some : target ≠ []) :
    strip (bracketPath target) = bracketPath target := by
  obtain ⟨front, last, rfl⟩ := List.eq_nil_or_concat target |>.resolve_left some
  have notBlank : ¬ AreBlanks "this".toList := by decide
  have bracket : ¬ AreBlanks [']'] := by decide
  have start : trimStart (bracketPath (front.concat last)).toList =
      (bracketPath (front.concat last)).toList := by
    rw [bracketPath_toList, trimStart_append notBlank]
    rfl
  obtain ⟨inner, ends⟩ : ∃ inner, (bracketPath (front.concat last)).toList = inner ++ [']'] := by
    rw [bracketPath_toList, List.concat_eq_append, List.flatMap_append, List.flatMap_singleton,
      bracketSegment_toList]
    exact ⟨"this".toList ++ ((front.flatMap fun segment => (bracketSegment segment).toList) ++
      '[' :: '"' :: (last.toList.flatMap (literalCharacter .all) ++ ['"'])), by simp⟩
  unfold strip trim
  rw [start, ends, trimEnd_append inner bracket]
  show String.ofList (inner ++ [']']) = _
  rw [← ends, String.ofList_toList]

/-- The root is written as a plain run, and stands for itself. -/
theorem root_isWellFormed : Piece.IsWellFormed (.plain "this".toList) := by
  refine ⟨?_, by decide⟩
  simp [isMark]

theorem root_value : Piece.value (.plain "this".toList) = "this".toList := by
  decide

/-! ### Segments that are kept are read back -/

/-- The bracket form as it is written of segments that are kept. -/
def written (target : List String) : Spelling where
  first := .plain "this".toList
  others := target.map fun segment => ⟨false, .bracketed [] (some '"') segment.toList []⟩

theorem written_isWellFormed (kept : ∀ segment ∈ target, IsKept segment) :
    (written target).IsWellFormed := by
  have blank : AreBlanks [] := by simp [AreBlanks]
  refine ⟨root_isWellFormed, ?_⟩
  rw [written, List.forall_mem_map]
  intro segment member
  obtain ⟨some, verbatim⟩ := kept segment member
  refine ⟨⟨blank, .inr (.inl rfl), by simpa using some, ?_, blank⟩, fun never => never.elim⟩
  intro newline
  exact absurd (verbatim _ newline).2.2 (by decide)

theorem written_isSettled (kept : ∀ segment ∈ target, IsKept segment) :
    (written target).IsSettled := by
  refine ⟨trivial, ?_⟩
  rw [written, List.forall_mem_map]
  intro segment member quote
  exact ((kept segment member).2 _ quote).1 rfl

theorem written_text (kept : ∀ segment ∈ target, IsKept segment) :
    String.ofList (written target).text = bracketPath target := by
  rw [← String.toList_inj, String.toList_ofList, bracketPath_toList, Spelling.text, written,
    List.flatMap_map]
  refine congrArg ("this".toList ++ ·) (List.flatMap_congr fun segment member => ?_)
  rw [bracketSegment_toList, literal_of_isVerbatim (kept segment member).2]
  simp [Link.text, Piece.text, bracketText, bracketInside]

theorem written_named (target : List String) : (written target).named = target := by
  have strings : String.ofList ∘ String.toList = id := funext fun _ => String.ofList_toList
  rw [Spelling.named, written, if_pos root_value, Spelling.values, List.tail_cons, List.map_map,
    List.map_map]
  show target.map (String.ofList ∘ String.toList) = target
  rw [strings, List.map_id]

theorem split_bracketPath (some : target ≠ []) (kept : ∀ segment ∈ target, IsKept segment) :
    split (bracketPath target) = .ok target := by
  have reads := split_spelling (written_isWellFormed kept) (written_isSettled kept)
  rw [written_named, if_neg some, written_text kept] at reads
  exact reads

/-! ### Segments that are read back are kept -/

/-- A bracketed segment that begins where a segment is written, and stands for it, is all that is
written of it. -/
theorem kept_of_bracketText (blankBefore : AreBlanks before) (isQuote : IsQuote quote)
    (some : segment.toList ≠ []) (blankAfter : AreBlanks after)
    (same : bracketText before quote segment.toList after ++ rest =
      (bracketSegment segment).toList ++ later) :
    IsKept segment ∧ rest = later := by
  rw [bracketSegment_toList, bracketText, List.cons_append, bracketInside_append,
    List.cons_append, List.cons_append, List.append_assoc] at same
  obtain ⟨_, same⟩ := List.cons.inj same
  obtain rfl := blankBefore.eq_nil same (by decide)
  rcases isQuote with rfl | rfl | rfl
  · -- The content would begin with the quote and lag behind its literal.
    have closed : ∀ character, character = '"' ∨ character = '\\' →
        ∀ next ∈ literalCharacter .all character, next = '"' ∨ next = '\\' := by
      rintro _ (rfl | rfl) <;> simp [literalCharacter]
    have lags : segment.toList ++ (after ++ ']' :: rest) =
        ['"'] ++ (segment.toList.flatMap (literalCharacter .all) ++ (['"', ']'] ++ later)) := by
      simpa using same
    obtain ⟨next, more, follows, never⟩ := next_of_lagging closed (by simp) (by simp) lags
    have notBlank : isBlank next = false := by
      rcases never with rfl | rfl <;> decide
    obtain rfl := blankAfter.eq_nil follows notBlank
    obtain ⟨rfl, _⟩ := List.cons.inj follows
    exact absurd never (by decide)
  · obtain ⟨_, same⟩ := List.cons.inj same
    have verbatim := isVerbatim_of_literal same
    rw [literal_of_isVerbatim verbatim] at same
    obtain ⟨_, same⟩ := List.cons.inj (List.append_cancel_left same)
    obtain rfl := blankAfter.eq_nil same (by decide)
    exact ⟨⟨by simpa using some, verbatim⟩, (List.cons.inj same).2⟩
  · exact absurd (List.cons.inj same).1 (by decide)

/-- Pieces that stand for the segments and make up their bracket forms keep them. -/
theorem kept_of_links (wellFormed : ∀ link ∈ links, link.IsWellFormed)
    (same : links.flatMap Link.text = target.flatMap fun segment => (bracketSegment segment).toList)
    (values : (links.map fun link => link.piece.value) = target.map String.toList) :
    ∀ segment ∈ target, IsKept segment := by
  induction target generalizing links with
  | nil => simp
  | cons segment target inductionHypothesis =>
      cases links with
      | nil => simp at values
      | cons link links =>
          rw [List.map_cons, List.map_cons] at values
          obtain ⟨value, laterValues⟩ := List.cons.inj values
          rw [List.forall_mem_cons] at wellFormed
          obtain ⟨⟨wellFormedPiece, dotted⟩, wellFormed⟩ := wellFormed
          rw [List.flatMap_cons, List.flatMap_cons] at same
          obtain ⟨dot, piece⟩ := link
          cases dot with
          | true => simp [Link.text, bracketSegment_toList] at same
          | false =>
              cases piece with
              | plain run => exact Bool.noConfusion (dotted trivial)
              | bracketed before quote content after =>
                  obtain rfl : content = segment.toList := value
                  obtain ⟨blankBefore, isQuote, some, _, blankAfter⟩ := wellFormedPiece
                  obtain ⟨kept, more⟩ :=
                    kept_of_bracketText blankBefore isQuote some blankAfter same
                  exact List.forall_mem_cons.mpr
                    ⟨kept, inductionHypothesis wellFormed more laterValues⟩

theorem kept_of_split (reads : split (bracketPath target) = .ok target) :
    ∀ segment ∈ target, IsKept segment := by
  obtain ⟨some, ⟨first, links⟩, ⟨wellFormedFirst, wellFormed⟩, same, values⟩ :=
    spelling_of_split reads
  rw [strip_bracketPath some, bracketPath_toList, Spelling.text] at same
  cases first with
  | bracketed before quote content after => simp [Piece.text, bracketText] at same
  | plain run =>
      -- Both runs end where the first mark stands.
      have stops : ∀ next ∈ (target.flatMap fun segment => (bracketSegment segment).toList).head?,
          isMark next = true := by
        obtain ⟨segment, more, rfl⟩ := List.exists_cons_of_ne_nil some
        simp [bracketSegment_toList, isMark]
      have filled : run ≠ [] := by
        rintro rfl
        exact wellFormedFirst.2 (by simp [AreBlanks])
      have cut := chunks_plain filled wellFormedFirst.1 (links_stop wellFormed)
      have root : chunks ("this".toList ++ target.flatMap fun segment =>
          (bracketSegment segment).toList) = .plain "this".toList :: chunks _ :=
        chunks_plain (by decide) root_isWellFormed.1 stops
      have same : "this".toList ++ _ = run ++ links.flatMap Link.text := same
      rw [← same, root] at cut
      obtain rfl := Chunk.plain.inj (List.cons.inj cut).1
      refine kept_of_links wellFormed (List.append_cancel_left same).symm ?_
      rw [Spelling.named, if_pos root_value] at values
      have values := congrArg (List.map String.toList) values
      simpa [Spelling.values, Function.comp_def] using values.symm

/-- A path is read back from its bracket form if and only if it has a segment, and none of them
is empty or holds a quote, a backslash or a control character. Any other path is refused or read
as another one. -/
theorem split_bracketPath_eq_iff (target : List String) :
    (split (bracketPath target) = .ok target ↔
      target ≠ [] ∧ ∀ segment ∈ target, IsKept segment) ∧
    (¬ (target ≠ [] ∧ ∀ segment ∈ target, IsKept segment) →
      (∃ fault, split (bracketPath target) = .error fault) ∨
        ∃ other, split (bracketPath target) = .ok other ∧ other ≠ target) := by
  have readBack : split (bracketPath target) = .ok target ↔
      target ≠ [] ∧ ∀ segment ∈ target, IsKept segment := by
    constructor
    · intro reads
      exact ⟨(spelling_of_split reads).1, kept_of_split reads⟩
    · rintro ⟨some, kept⟩
      exact split_bracketPath some kept
  refine ⟨readBack, fun outside => ?_⟩
  cases reads : split (bracketPath target) with
  | error fault => exact .inl ⟨fault, rfl⟩
  | ok other =>
      refine .inr ⟨other, rfl, ?_⟩
      rintro rfl
      exact outside (readBack.mp reads)

/-- The quote in the segment is escaped, and the escape is read as it stands. -/
theorem split_bracketPath_of_a_quote :
    ¬ (["a\"b"] ≠ [] ∧ ∀ segment ∈ ["a\"b"], IsKept segment) ∧
      split (bracketPath ["a\"b"]) = .ok ["a\\\"b"] ∧
      ((∃ fault, split (bracketPath ["a\"b"]) = .error fault) ∨
        ∃ other, split (bracketPath ["a\"b"]) = .ok other ∧ other ≠ ["a\"b"]) := by
  have outside : ¬ (["a\"b"] ≠ [] ∧ ∀ segment ∈ ["a\"b"], IsKept segment) := by decide
  exact ⟨outside, rfl, (split_bracketPath_eq_iff ["a\"b"]).2 outside⟩

example : split (bracketPath ["this", "a].[b", " "]) = .ok ["this", "a].[b", " "] := rfl

end TemplateBundle.Namespace
