import TemplateBundle.Namespace.Registry

/-!
Contract: the namespace that a registry takes all declarations to share.

Owns: the segments that the search for the outermost namespace cuts short, and the law that it
finds the whole first namespace otherwise.

The search goes by the text of a path, not by its segments: it stops at the last closing bracket
before the next opening one. A segment may hold both kinds of brackets itself.
-/

namespace TemplateBundle.Namespace

open TemplateBundle.Text

/-- A closing bracket stands in the segment before the first opening one, where the search for
the outermost namespace takes it for the end. -/
def IsCut (segment : String) : Prop :=
  '[' ∈ segment.toList ∧ ']' ∈ segment.toList.takeWhile (· ≠ '[')

instance (segment : String) : Decidable (IsCut segment) := by
  unfold IsCut
  infer_instance

private theorem bracket_not_mem_unitEscape :
    ∀ code < 32, '[' ∉ unitEscape code ∧ ']' ∉ unitEscape code := by
  decide

/-- A character is written as itself, or without brackets. -/
private theorem literalCharacter_brackets (character : Char) :
    literalCharacter .all character = [character] ∨
      ('[' ∉ literalCharacter .all character ∧ ']' ∉ literalCharacter .all character) := by
  unfold literalCharacter
  repeat' split
  all_goals
    first
    | exact .inl rfl
    | exact .inr (by decide)
    | exact .inr (bracket_not_mem_unitEscape _ ‹_›)
    | exact absurd (And.left ‹_›) (by decide)

private theorem bracket_of_mem_literal {mark : Char} {characters : List Char}
    (isBracket : mark = '[' ∨ mark = ']')
    (member : mark ∈ characters.flatMap (literalCharacter .all)) : mark ∈ characters := by
  obtain ⟨character, inside, written⟩ := List.mem_flatMap.mp member
  rcases literalCharacter_brackets character with itself | ⟨noOpening, noClosing⟩
  · rw [itself, List.mem_singleton] at written
    rw [written]
    exact inside
  · rcases isBracket with rfl | rfl
    · exact absurd written noOpening
    · exact absurd written noClosing

private theorem takeWhile_ne_append {mark : Char} {before : List Char} (absent : mark ∉ before)
    (after : List Char) :
    (before ++ after).takeWhile (· ≠ mark) = before ++ after.takeWhile (· ≠ mark) := by
  refine List.takeWhile_append_of_pos fun character member => ?_
  simp only [ne_eq, decide_eq_true_eq]
  exact fun same => absent (same ▸ member)

/-- A list is split at the last place where a character stands. -/
private theorem eq_append_cons_of_mem_last {mark : Char} {characters : List Char}
    (member : mark ∈ characters) :
    ∃ before after, characters = before ++ mark :: after ∧ mark ∉ after := by
  obtain ⟨after, before, reversed, absent⟩ :=
    List.eq_append_cons_of_mem (List.mem_reverse.mpr member)
  refine ⟨before.reverse, after.reverse, ?_, by simpa using absent⟩
  rw [← List.reverse_reverse characters, reversed]
  simp

namespace Registry

private theorem lastBracketEnd_none {characters : List Char} (absent : ']' ∉ characters)
    (position : Nat) : lastBracketEnd position characters = none := by
  induction characters generalizing position with
  | nil => rfl
  | cons character rest inductionHypothesis =>
      rw [List.mem_cons, not_or] at absent
      rw [lastBracketEnd, inductionHypothesis absent.2]
      simp [Ne.symm absent.1]

/-- The search finds the last closing bracket. -/
private theorem lastBracketEnd_last (before : List Char) {after : List Char} (absent : ']' ∉ after)
    (position : Nat) (later : 0 < position + before.length) :
    lastBracketEnd position (before ++ ']' :: after) = some (position + before.length + 1) := by
  induction before generalizing position with
  | nil =>
      have positive : 0 < position := by simpa using later
      simp [lastBracketEnd, lastBracketEnd_none absent, positive]
  | cons character rest inductionHypothesis =>
      rw [List.cons_append, lastBracketEnd, inductionHypothesis (position + 1) (by omega)]
      simp only [List.length_cons, Option.some.injEq]
      omega

/-- What follows the first opening bracket in the text of a namespace of one segment. -/
private def afterRoot (root : String) : List Char :=
  '"' :: root.toList.flatMap (literalCharacter .all) ++ ['"', ']']

/-- The text of a namespace of one segment. -/
private theorem bracketPath_root (root : String) :
    (bracketPath [root]).toList = "this[".toList ++ afterRoot root := by
  simp [bracketPath, bracketSegment, doubleQuoted, literalCharacters, afterRoot]

/-- The outermost namespace of a path of one segment is sought in what follows the first opening
bracket, up to the next one. -/
private theorem outermost_eq (root : String) :
    outermost (bracketPath [root]) =
      match lastBracketEnd 0 ((afterRoot root).takeWhile (· ≠ '[')) with
      | some size => String.ofList ("this[".toList ++ (afterRoot root).take size)
      | none => bracketPath [root] := by
  have starts : "this[".toList.isPrefixOf (bracketPath [root]).toList = true := by
    rw [bracketPath_root, List.isPrefixOf_iff_prefix]
    exact List.prefix_append _ _
  unfold outermost
  dsimp only
  rw [if_pos starts, bracketPath_root, List.drop_left]
  cases lastBracketEnd 0 ((afterRoot root).takeWhile (· ≠ '[')) with
  | none => rfl
  | some size =>
      dsimp only
      rw [List.take_length_add_append]

/-- Only the part of a segment before its first opening bracket is searched. -/
private theorem searched_of_split {root : String} {before after : List Char}
    (split : root.toList = before ++ '[' :: after) (absent : '[' ∉ before) :
    (afterRoot root).takeWhile (· ≠ '[') = '"' :: before.flatMap (literalCharacter .all) := by
  have shape : afterRoot root = ('"' :: before.flatMap (literalCharacter .all)) ++
      '[' :: (after.flatMap (literalCharacter .all) ++ ['"', ']']) := by
    rw [afterRoot, split]
    simp [literalCharacter]
  have absentWritten : '[' ∉ '"' :: before.flatMap (literalCharacter .all) := by
    rw [List.mem_cons, not_or]
    exact ⟨by decide, fun member => absent (bracket_of_mem_literal (.inl rfl) member)⟩
  rw [shape, takeWhile_ne_append absentWritten]
  simp

/-- The outermost namespace of a path of one segment is the whole path. -/
theorem outermost_root {root : String} (whole : ¬ IsCut root) :
    outermost (bracketPath [root]) = bracketPath [root] := by
  rw [outermost_eq]
  by_cases opening : '[' ∈ root.toList
  · -- The part before the opening bracket has no closing one, and nothing is found.
    obtain ⟨before, after, split, absent⟩ := List.eq_append_cons_of_mem opening
    have noClosing : ']' ∉ before := by
      intro member
      refine whole ⟨opening, ?_⟩
      rw [split, takeWhile_ne_append absent, List.mem_append]
      exact .inl member
    rw [searched_of_split split absent, lastBracketEnd_none]
    rw [List.mem_cons, not_or]
    exact ⟨by decide, fun member => noClosing (bracket_of_mem_literal (.inr rfl) member)⟩
  · -- There is no opening bracket, and the last closing one ends the path.
    have shape : afterRoot root =
        ('"' :: root.toList.flatMap (literalCharacter .all) ++ ['"']) ++ [']'] := by
      simp [afterRoot]
    have searched : (afterRoot root).takeWhile (· ≠ '[') = afterRoot root := by
      have absent : '[' ∉ '"' :: root.toList.flatMap (literalCharacter .all) := by
        rw [List.mem_cons, not_or]
        exact ⟨by decide, fun member => opening (bracket_of_mem_literal (.inl rfl) member)⟩
      rw [afterRoot, takeWhile_ne_append absent]
      rfl
    rw [searched, shape, lastBracketEnd_last _ List.not_mem_nil _ (by simp)]
    dsimp only
    rw [List.take_of_length_le (by simp), ← shape, ← bracketPath_root, String.ofList_toList]

/-- Of a segment that is cut, only the part up to the last closing bracket before the first opening
one is found, without the quote that ends the literal. -/
theorem outermost_cut {root : String} (cut : IsCut root) :
    ∃ front middle after : List Char, root.toList = front ++ ']' :: middle ++ '[' :: after ∧
      '[' ∉ front ++ ']' :: middle ∧ ']' ∉ middle ∧
      outermost (bracketPath [root]) =
        String.ofList ("this[\"".toList ++ front.flatMap (literalCharacter .all) ++ [']']) := by
  obtain ⟨opening, closing⟩ := cut
  obtain ⟨before, after, split, absent⟩ := List.eq_append_cons_of_mem opening
  rw [split, takeWhile_ne_append absent] at closing
  have inside : ']' ∈ before := by simpa using closing
  obtain ⟨front, middle, rfl, lastOne⟩ := eq_append_cons_of_mem_last inside
  refine ⟨front, middle, after, split, absent, lastOne, ?_⟩
  -- What is found, the bracket that ends it, and what is left of the searched part.
  have written : '"' :: (front ++ ']' :: middle).flatMap (literalCharacter .all) =
      ('"' :: front.flatMap (literalCharacter .all)) ++
        ']' :: middle.flatMap (literalCharacter .all) := by
    simp [literalCharacter]
  have absentWritten : ']' ∉ middle.flatMap (literalCharacter .all) :=
    fun member => lastOne (bracket_of_mem_literal (.inr rfl) member)
  have begins :
      '"' :: (front ++ ']' :: middle).flatMap (literalCharacter .all) <+: afterRoot root := by
    rw [← searched_of_split split absent]
    exact List.takeWhile_prefix _
  obtain ⟨beyond, whole⟩ := begins
  rw [outermost_eq, searched_of_split split absent, written,
    lastBracketEnd_last _ absentWritten _ (by simp), ← whole, written, List.append_assoc]
  dsimp only
  rw [Nat.zero_add, List.take_length_add_append]
  simp

example : IsCut "a]b[c" ∧ outermost (bracketPath ["a]b[c"]) = "this[\"a]" := by decide

/-- The outermost namespace of a path of one segment is the whole path just where the segment is
not cut. -/
theorem outermost_root_iff (root : String) :
    outermost (bracketPath [root]) = bracketPath [root] ↔ ¬ IsCut root := by
  refine ⟨fun same cut => ?_, outermost_root⟩
  obtain ⟨front, middle, after, split, _, _, found⟩ := outermost_cut cut
  rw [found] at same
  have written := congrArg (fun text => text.toList.length) same
  simp only [bracketPath_root, afterRoot, split] at written
  simp [literalCharacter] at written

/-- What a registry takes all declarations to share is the first of them, if that is a root
which is not cut. -/
theorem globalNamespace_root {registry : Registry} {root : String} {rest : List String}
    (first : registry.declared = bracketPath [root] :: rest) (whole : ¬ IsCut root) :
    registry.globalNamespace = bracketPath [root] := by
  unfold globalNamespace
  rw [first]
  cases rest with
  | nil => rfl
  | cons second others => exact outermost_root whole

end Registry

end TemplateBundle.Namespace
