import TemplateBundle.Proofs.Text.Literal
import TemplateBundle.Proofs.Value.Literal

/-!
Contract: where a string literal ends, and what its characters stand for.

Owns: contents in which nothing ends a literal, the scanner that passes over the character after
each backslash, the runs of backslashes before quotes, a decoder of escapes, and the law that a
double-quoted literal is a literal of just the text that it was written for.

Does not own: the reader of whole documents (`Proofs.Value.Literal`). Scanner and decoder know
nothing of how literals are written.
-/

namespace TemplateBundle.Text

variable {mark character : Char} {content before after rest : List Char}

/-! ### Where a literal ends -/

/-- Nothing in the content ends a literal: a mark or a backslash stands only behind a backslash,
which takes the character after it along. -/
inductive Shielded (mark : Char) : List Char → Prop
  | nil : Shielded mark []
  | plain {character : Char} {rest : List Char} : character ≠ mark → character ≠ '\\' →
      Shielded mark rest → Shielded mark (character :: rest)
  | escape (character : Char) {rest : List Char} :
      Shielded mark rest → Shielded mark ('\\' :: character :: rest)

/-- What follows the first mark, where the character after each backslash is passed over. -/
def afterMark? (mark : Char) : List Char → Option (List Char)
  | [] => none
  | '\\' :: _ :: rest => afterMark? mark rest
  | character :: rest => if character = mark then some rest else afterMark? mark rest

/-- How many backslashes stand at the end. -/
def trailingBackslashes (characters : List Char) : Nat :=
  (characters.reverse.takeWhile (· = '\\')).length

theorem trailingBackslashes_append (other : character ≠ '\\') (front back : List Char) :
    trailingBackslashes (front ++ character :: back) = trailingBackslashes back := by
  unfold trailingBackslashes
  rw [List.reverse_append, List.reverse_cons, List.append_assoc, List.takeWhile_append]
  split
  · rename_i whole
    simp [other, whole]
  · rfl

/-- A backslash and the character that it takes along do not change whether the backslashes at the
end are odd in number. -/
theorem trailingBackslashes_escape (character : Char) (rest : List Char) :
    trailingBackslashes ('\\' :: character :: rest) % 2 = trailingBackslashes rest % 2 := by
  by_cases isBackslash : character = '\\'
  · unfold trailingBackslashes
    rw [isBackslash, List.reverse_cons, List.reverse_cons, List.append_assoc,
      List.takeWhile_append]
    split
    · rename_i whole
      simp [whole]
    · rfl
  · rw [show '\\' :: character :: rest = ['\\'] ++ character :: rest from rfl,
      trailingBackslashes_append isBackslash]

namespace Shielded

theorem of_plain (plain : ∀ character ∈ content, character ≠ mark ∧ character ≠ '\\') :
    Shielded mark content := by
  induction content with
  | nil => exact .nil
  | cons character rest inductionHypothesis =>
      rw [List.forall_mem_cons] at plain
      exact .plain plain.1.1 plain.1.2 (inductionHypothesis plain.2)

theorem append (first : Shielded mark content) (second : Shielded mark rest) :
    Shielded mark (content ++ rest) := by
  induction first with
  | nil => exact second
  | plain noMark noBackslash _ inductionHypothesis =>
      exact .plain noMark noBackslash inductionHypothesis
  | escape character _ inductionHypothesis => exact .escape character inductionHypothesis

theorem flatMap {written : Char → List Char} (each : ∀ character, Shielded mark (written character))
    (content : List Char) : Shielded mark (content.flatMap written) := by
  induction content with
  | nil => exact .nil
  | cons character rest inductionHypothesis =>
      rw [List.flatMap_cons]
      exact (each character).append inductionHypothesis

/-- The scanner passes over what is shielded. -/
theorem afterMark?_append (shielded : Shielded mark content) (rest : List Char) :
    afterMark? mark (content ++ rest) = afterMark? mark rest := by
  induction shielded with
  | nil => rfl
  | plain noMark noBackslash _ inductionHypothesis =>
      rw [List.cons_append, afterMark?, if_neg noMark, inductionHypothesis]
      intro next more same
      exact absurd same noBackslash
  | escape character _ inductionHypothesis =>
      rw [List.cons_append, List.cons_append, afterMark?, inductionHypothesis]

/-- A literal with shielded content ends at the mark behind it, whatever follows. -/
theorem afterMark?_closed (shielded : Shielded mark content) (isMark : mark ≠ '\\')
    (following : List Char) :
    afterMark? mark (content ++ mark :: following) = some following := by
  rw [shielded.afterMark?_append, afterMark?, if_pos rfl]
  intro next more same
  exact absurd same isMark

/-- A mark inside stands behind an odd number of backslashes. -/
theorem odd_before (shielded : Shielded mark content) (isMark : mark ≠ '\\')
    (inside : content = before ++ mark :: after) : trailingBackslashes before % 2 = 1 := by
  induction shielded generalizing before with
  | nil => simp at inside
  | plain noMark noBackslash _ inductionHypothesis =>
      cases before with
      | nil => exact absurd (List.cons.inj inside).1 noMark
      | cons first front =>
          obtain ⟨rfl, same⟩ := List.cons.inj inside
          rw [← inductionHypothesis same]
          exact congrArg (· % 2) (trailingBackslashes_append noBackslash [] front)
  | escape character _ inductionHypothesis =>
      match before with
      | [] => exact absurd (List.cons.inj inside).1.symm isMark
      | [first] =>
          obtain ⟨rfl, _⟩ := List.cons.inj inside
          rfl
      | first :: second :: front =>
          obtain ⟨isBackslash, same⟩ := List.cons.inj inside
          obtain ⟨_, same⟩ := List.cons.inj same
          rw [← isBackslash, trailingBackslashes_escape, inductionHypothesis same]

/-- The mark behind a shielded content stands behind an even number of backslashes. -/
theorem even_end (shielded : Shielded mark content) : trailingBackslashes content % 2 = 0 := by
  induction shielded with
  | nil => rfl
  | plain _ noBackslash _ inductionHypothesis =>
      rw [← inductionHypothesis]
      exact congrArg (· % 2) (trailingBackslashes_append noBackslash [] _)
  | escape character _ inductionHypothesis =>
      rw [trailingBackslashes_escape, inductionHypothesis]

end Shielded

/-! ### What the characters stand for -/

/-- What the characters of a literal stand for. There are escapes of two characters, and escapes of
the first 256 code points by four digits. -/
def unescape? : List Char → Option (List Char)
  | [] => some []
  | '\\' :: 'u' :: '0' :: '0' :: high :: low :: rest =>
      (Value.readEscape? ['u', '0', '0', high, low]).bind fun (point, _) =>
        point.character?.bind fun character => (unescape? rest).map (character :: ·)
  | '\\' :: mark :: rest =>
      (Value.readEscape? [mark]).bind fun (point, _) =>
        point.character?.bind fun character => (unescape? rest).map (character :: ·)
  | character :: rest => if character = '\\' then none else (unescape? rest).map (character :: ·)

/-! ### How literals are written -/

/-- A character is written as itself, by an escape of two characters, or by its four digits. -/
inductive IsWritten (character : Char) : List Char → Prop
  | verbatim : IsVerbatim character → IsWritten character [character]
  | short {mark : Char} : 0x20 ≤ mark.toNat →
      Value.readEscape? [mark] = some (.whole character, []) → IsWritten character ['\\', mark]
  | digits {high low : Char} : IsVerbatim high → IsVerbatim low →
      Value.readEscape? ['u', '0', '0', high, low] = some (.whole character, []) →
      IsWritten character ['\\', 'u', '0', '0', high, low]

private theorem isVerbatim_hexDigit : ∀ value < 16, IsVerbatim (hexDigit value) := by
  decide

private theorem hexDigits_control : ∀ code < 0x20,
    hexDigits 4 code = ['0', '0', hexDigit (code / 16), hexDigit (code % 16)] := by
  decide

theorem isWritten_literalCharacter (character : Char) :
    IsWritten character (literalCharacter .all character) := by
  fun_cases literalCharacter .all character
  case case8 control =>
    have fits : character.toNat < 0x10000 := by omega
    have reads := Value.readEscape?_unit fits (by omega) []
    rw [List.append_nil, hexDigits_control _ control, Char.ofNat_toNat] at reads
    rw [unitEscape, hexDigits_control _ control]
    exact .digits (isVerbatim_hexDigit _ (by omega)) (isVerbatim_hexDigit _ (by omega)) reads
  case case9 onlyAscii => exact absurd onlyAscii.1 (by decide)
  case case10 noQuote noBackslash _ _ _ _ _ notControl _ =>
    exact .verbatim ⟨noQuote, noBackslash, by omega⟩
  -- The short escapes.
  all_goals
    subst character
    exact .short (by decide) rfl

namespace IsWritten

variable {written : List Char}

theorem shielded (isWritten : IsWritten character written) : Shielded '"' written := by
  cases isWritten with
  | verbatim itself => exact .plain itself.1 itself.2.1 .nil
  | short _ _ => exact .escape _ .nil
  | digits isHigh isLow _ =>
      refine .escape 'u' (.of_plain ?_)
      simp [isHigh.1, isHigh.2.1, isLow.1, isLow.2.1]

theorem no_control (isWritten : IsWritten character written) :
    ∀ next ∈ written, 0x20 ≤ next.toNat := by
  cases isWritten with
  | verbatim itself => simpa using itself.2.2
  | short notControl _ => simpa using notControl
  | digits isHigh isLow _ => simp [isHigh.2.2, isLow.2.2]

theorem unescape?_append (isWritten : IsWritten character written) (rest : List Char) :
    unescape? (written ++ rest) = (unescape? rest).map (character :: ·) := by
  cases isWritten with
  | verbatim itself =>
      rw [List.singleton_append, unescape?, if_neg itself.2.1]
      all_goals
        intros
        exact absurd ‹_› itself.2.1
  | short _ reads =>
      rw [List.cons_append, List.singleton_append, unescape?, reads]
      · rfl
      · rintro high low more rfl
        cases reads
  | digits _ _ reads =>
      simp only [List.cons_append, List.nil_append, unescape?, reads, Option.bind_some,
        Value.Point.character?]

end IsWritten

theorem shielded_literal (content : List Char) :
    Shielded '"' (content.flatMap (literalCharacter .all)) :=
  .flatMap (fun character => (isWritten_literalCharacter character).shielded) content

theorem no_control_literal (content : List Char) :
    ∀ character ∈ content.flatMap (literalCharacter .all), 0x20 ≤ character.toNat := by
  intro character isThere
  obtain ⟨source, _, isThere⟩ := List.mem_flatMap.mp isThere
  exact (isWritten_literalCharacter source).no_control character isThere

theorem unescape?_literal (content : List Char) :
    unescape? (content.flatMap (literalCharacter .all)) = some content := by
  induction content with
  | nil => rfl
  | cons character rest inductionHypothesis =>
      rw [List.flatMap_cons, (isWritten_literalCharacter character).unescape?_append,
        inductionHypothesis]
      rfl

/-- A double-quoted literal opens and closes with a quote. Between them no control character
stands as it is; every quote stands behind an odd number of backslashes, and the closing one behind
an even number, so that a scanner ends the literal at its closing quote and nowhere before it,
whatever follows. What stands between the quotes decodes to just the text. -/
theorem doubleQuoted_isLiteral (text : String) :
    ∃ content, (doubleQuoted text).toList = '"' :: content ++ ['"'] ∧
      (∀ character ∈ content, 0x20 ≤ character.toNat) ∧
      (∀ before after, content = before ++ '"' :: after → trailingBackslashes before % 2 = 1) ∧
      trailingBackslashes content % 2 = 0 ∧
      afterMark? '"' content = none ∧
      (∀ following, afterMark? '"' (content ++ '"' :: following) = some following) ∧
      unescape? content = some text.toList := by
  have shielded := shielded_literal text.toList
  have isMark : '"' ≠ '\\' := by decide
  have unclosed := shielded.afterMark?_append []
  rw [List.append_nil] at unclosed
  exact ⟨_, String.toList_ofList, no_control_literal text.toList,
    fun before after inside => shielded.odd_before isMark inside, shielded.even_end, unclosed,
    shielded.afterMark?_closed isMark, unescape?_literal text.toList⟩

example : doubleQuoted "a\"\x01\\" = "\"a\\\"\\u0001\\\\\"" := by decide

end TemplateBundle.Text
