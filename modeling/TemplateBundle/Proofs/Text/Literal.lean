import TemplateBundle.Text.Literal

/-!
Contract: which texts a double-quoted literal keeps as they are.

Owns: the characters that stand for themselves, the backslash that every other one is written
with, and the law of a text that is read off its own literal.

Such a text falls behind at its first character that is not kept, and never catches up: what
follows it in the literal is part of an escape.
-/

namespace TemplateBundle.Text

variable {character : Char} {content pending following later : List Char}

/-- The character stands for itself in a literal: it is no quote, no backslash and no control
character. -/
def IsVerbatim (character : Char) : Prop :=
  character ≠ '"' ∧ character ≠ '\\' ∧ 0x20 ≤ character.toNat

instance : DecidablePred IsVerbatim := fun character => by
  unfold IsVerbatim
  infer_instance

theorem literalCharacter_of_isVerbatim (verbatim : IsVerbatim character) :
    literalCharacter .all character = [character] := by
  obtain ⟨noQuote, noBackslash, notControl⟩ := verbatim
  fun_cases literalCharacter .all character
  case case10 => rfl
  case case9 onlyAscii => exact absurd onlyAscii.1 (by decide)
  all_goals
    first
    | omega
    | contradiction
    | subst character; exact absurd notControl (by decide)

theorem literalCharacter_of_not_isVerbatim (escaped : ¬ IsVerbatim character) :
    ∃ rest, rest ≠ [] ∧ literalCharacter .all character = '\\' :: rest := by
  fun_cases literalCharacter .all character
  case case9 onlyAscii => exact absurd onlyAscii.1 (by decide)
  case case10 noQuote noBackslash _ _ _ _ _ notControl _ =>
    exact absurd ⟨noQuote, noBackslash, by omega⟩ escaped
  all_goals exact ⟨_, List.cons_ne_nil _ _, rfl⟩

theorem literal_of_isVerbatim (verbatim : ∀ character ∈ content, IsVerbatim character) :
    content.flatMap (literalCharacter .all) = content := by
  induction content with
  | nil => rfl
  | cons character rest inductionHypothesis =>
      rw [List.forall_mem_cons] at verbatim
      rw [List.flatMap_cons, literalCharacter_of_isVerbatim verbatim.1,
        inductionHypothesis verbatim.2]
      rfl

/-- A text that lags behind its own literal is followed by characters of the kind that lags, for
every kind whose characters are written by such alone. -/
theorem next_of_lagging {kind : Char → Prop}
    (closed : ∀ character, kind character → ∀ next ∈ literalCharacter .all character, kind next)
    (some : pending ≠ []) (ofKind : ∀ character ∈ pending, kind character)
    (same : content ++ following = pending ++ (content.flatMap (literalCharacter .all) ++ later)) :
    ∃ next rest, following = next :: rest ∧ kind next := by
  induction content generalizing pending with
  | nil =>
      obtain ⟨next, rest, rfl⟩ := List.exists_cons_of_ne_nil some
      exact ⟨next, rest ++ later, by simpa using same, ofKind next (by simp)⟩
  | cons character more inductionHypothesis =>
      obtain ⟨next, rest, rfl⟩ := List.exists_cons_of_ne_nil some
      rw [List.forall_mem_cons] at ofKind
      obtain ⟨rfl, same⟩ := List.cons.inj same
      have written : literalCharacter .all character ≠ [] := by
        by_cases verbatim : IsVerbatim character
        · simp [literalCharacter_of_isVerbatim verbatim]
        · obtain ⟨_, _, escape⟩ := literalCharacter_of_not_isVerbatim verbatim
          simp [escape]
      have lags : more ++ following = (rest ++ literalCharacter .all character) ++
          (more.flatMap (literalCharacter .all) ++ later) := by
        simpa using same
      refine inductionHypothesis ?_ ?_ lags
      · simp [written]
      · exact List.forall_mem_append.mpr ⟨ofKind.2, closed character ofKind.1⟩

/-- A text that is found, up to a quote, where its own literal is written has only characters that
stand for themselves. -/
theorem isVerbatim_of_literal
    (same : content ++ '"' :: following = content.flatMap (literalCharacter .all) ++ later) :
    ∀ character ∈ content, IsVerbatim character := by
  induction content with
  | nil => simp
  | cons character more inductionHypothesis =>
      by_cases verbatim : IsVerbatim character
      · rw [List.flatMap_cons, literalCharacter_of_isVerbatim verbatim] at same
        exact List.forall_mem_cons.mpr ⟨verbatim, inductionHypothesis (List.cons.inj same).2⟩
      · -- The character would be a backslash, and only backslashes could follow the text.
        obtain ⟨rest, some, escape⟩ := literalCharacter_of_not_isVerbatim verbatim
        simp only [List.flatMap_cons, escape, List.cons_append, List.append_assoc,
          List.cons.injEq] at same
        obtain ⟨rfl, same⟩ := same
        have backslash : rest = ['\\'] := (List.cons.inj escape).2.symm
        have closed : ∀ character, character = '\\' →
            ∀ next ∈ literalCharacter .all character, next = '\\' := by
          rintro _ rfl
          simp [literalCharacter]
        obtain ⟨_, _, quote, never⟩ := next_of_lagging closed some
          (by simp [backslash]) same
        exact absurd ((List.cons.inj quote).1.trans never) (by decide)

end TemplateBundle.Text
