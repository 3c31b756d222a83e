import TemplateBundle.Value.Reader

/-!
Contract: double-quoted literals as the reader of documents reads them.

Owns: the law that a literal is read back as the text that it was written for, in either range of
characters, and that a literal can be told from what follows it.

Does not own: which characters a literal keeps as they are (`Proofs.Text.Literal`).
-/

namespace TemplateBundle.Value

open TemplateBundle.Text

variable {unit : Nat} {content rest : List Char}

/-! ### Escapes -/

theorem hexValue?_hexDigit : ∀ value < 16, hexValue? (hexDigit value) = some value := by
  decide

theorem readUnit?_hexDigits (fits : unit < 0x10000) (rest : List Char) :
    readUnit? (hexDigits 4 unit ++ rest) = some (unit, rest) := by
  have digit (value : Nat) : hexValue? (hexDigit (value % 16)) = some (value % 16) :=
    hexValue?_hexDigit _ (Nat.mod_lt _ (by decide))
  simp only [hexDigits, List.nil_append, List.cons_append, readUnit?, digit]
  show some (_, rest) = _
  congr 2
  omega

theorem readEscape?_unit (fits : unit < 0x10000)
    (whole : ¬ (0xD800 ≤ unit ∧ unit < 0xE000)) (rest : List Char) :
    readEscape? ('u' :: (hexDigits 4 unit ++ rest)) = some (.whole (Char.ofNat unit), rest) := by
  simp only [readEscape?, readUnit?_hexDigits fits]
  show (if 0xD800 ≤ unit ∧ unit < 0xE000 then _ else _) = _
  rw [if_neg whole]

theorem readEscape?_pair {high low : Nat} (isHigh : 0xD800 ≤ high ∧ high < 0xDC00)
    (isLow : 0xDC00 ≤ low ∧ low < 0xE000) (rest : List Char) :
    readEscape? ('u' :: (hexDigits 4 high ++ (unitEscape low ++ rest))) =
      some (.whole (Char.ofNat (0x10000 + (high - 0xD800) * 0x400 + (low - 0xDC00))), rest) := by
  have fitsHigh : high < 0x10000 := by omega
  have fitsLow : low < 0x10000 := by omega
  have lowUnit : readLowUnit? (unitEscape low ++ rest) = some (low, rest) := by
    simp only [unitEscape, List.cons_append, readLowUnit?, readUnit?_hexDigits fitsLow]
    rw [if_pos isLow]
  have surrogate : 0xD800 ≤ high ∧ high < 0xE000 := by omega
  simp only [readEscape?, readUnit?_hexDigits fitsHigh]
  show (if 0xD800 ≤ high ∧ high < 0xE000 then _ else _) = _
  rw [if_pos surrogate, if_pos isHigh.2, lowUnit]

/-- A character written by its UTF-16 units is read back. -/
theorem readEscape?_utf16 (character : Char) (rest : List Char) :
    ∃ escape, utf16Escape character.toNat = '\\' :: escape ∧
      readEscape? (escape ++ rest) = some (.whole character, rest) := by
  have valid : character.toNat < 0xD800 ∨ 0xDFFF < character.toNat ∧ character.toNat < 0x110000 :=
    character.valid
  unfold utf16Escape
  by_cases small : character.toNat < 0x10000
  · rw [if_pos small]
    refine ⟨_, rfl, ?_⟩
    rw [List.cons_append, readEscape?_unit small (by omega), Char.ofNat_toNat]
  · rw [if_neg small]
    refine ⟨'u' :: (hexDigits 4 _ ++ unitEscape _), rfl, ?_⟩
    rw [List.cons_append, List.append_assoc,
      readEscape?_pair ⟨by omega, by omega⟩ ⟨by omega, by omega⟩]
    have code : 0x10000 + (0xD800 + (character.toNat - 0x10000) / 0x400 - 0xD800) * 0x400 +
        (0xDC00 + (character.toNat - 0x10000) % 0x400 - 0xDC00) = character.toNat := by
      omega
    rw [code, Char.ofNat_toNat]

/-! ### Literals -/

/-- A character is written as itself, or as a backslash and an escape that is read back. -/
theorem literalCharacter_cases (range : LiteralRange) (character : Char) (rest : List Char) :
    (literalCharacter range character = [character] ∧ character ≠ '"' ∧ character ≠ '\\' ∧
        ¬ character.toNat < 0x20) ∨
      ∃ escape, literalCharacter range character = '\\' :: escape ∧
        readEscape? (escape ++ rest) = some (.whole character, rest) := by
  fun_cases literalCharacter range character
  case case8 control =>
    refine .inr ⟨'u' :: hexDigits 4 character.toNat, rfl, ?_⟩
    rw [List.cons_append, readEscape?_unit (by omega) (by omega), Char.ofNat_toNat]
  case case9 => exact .inr (readEscape?_utf16 character rest)
  case case10 noQuote noBackslash _ _ _ _ _ notControl _ =>
    exact .inl ⟨rfl, noQuote, noBackslash, notControl⟩
  -- The short escapes.
  all_goals
    subst character
    exact .inr ⟨_, rfl, rfl⟩

theorem readString?_literalCharacter (range : LiteralRange) (character : Char) (fuel : Nat)
    (rest : List Char) :
    readString? (fuel + 1) (literalCharacter range character ++ rest) =
      (readString? fuel rest).map fun found => (.whole character :: found.1, found.2) := by
  rcases literalCharacter_cases range character rest with
    ⟨itself, noQuote, noBackslash, notControl⟩ | ⟨escape, written, reads⟩
  · rw [itself, List.singleton_append]
    simp only [readString?, if_neg notControl]
    cases readString? fuel rest <;> rfl
  · rw [written, List.cons_append]
    simp only [readString?, reads]
    cases later : readString? fuel rest <;> simp [later]

/-- What is written between quotes is read up to the closing one, as it was before. -/
theorem readString?_literal (range : LiteralRange) {fuel : Nat} (enough : content.length < fuel)
    (rest : List Char) :
    readString? fuel (content.flatMap (literalCharacter range) ++ '"' :: rest) =
      some (content.map .whole, rest) := by
  induction content generalizing fuel with
  | nil =>
      obtain ⟨fuel, rfl⟩ := Nat.exists_eq_succ_of_ne_zero (Nat.ne_of_gt enough)
      rfl
  | cons character more inductionHypothesis =>
      obtain ⟨fuel, rfl⟩ := Nat.exists_eq_succ_of_ne_zero (Nat.ne_of_gt (Nat.zero_lt_of_lt enough))
      have shorter : more.length < fuel := Nat.lt_of_succ_lt_succ enough
      rw [List.flatMap_cons, List.append_assoc, readString?_literalCharacter,
        inductionHypothesis shorter]
      rfl

/-- A literal ends where it was closed: two of them that begin one text are the same. -/
theorem literal_unique (range : LiteralRange) {first second afterFirst afterSecond : List Char}
    (same : first.flatMap (literalCharacter range) ++ '"' :: afterFirst =
      second.flatMap (literalCharacter range) ++ '"' :: afterSecond) :
    first = second ∧ afterFirst = afterSecond := by
  have enough : first.length < first.length + second.length + 1 := by omega
  have enoughOther : second.length < first.length + second.length + 1 := by omega
  have firstReads := readString?_literal range enough afterFirst
  have secondReads := readString?_literal range enoughOther afterSecond
  rw [same, secondReads] at firstReads
  obtain ⟨sameContent, sameRest⟩ := Prod.mk.inj (Option.some.inj firstReads)
  exact ⟨((List.map_inj_right fun _ _ => Point.whole.inj).mp sameContent).symm, sameRest.symm⟩

end TemplateBundle.Value
