import TemplateBundle.Proofs.Text.StringLiteral

/-!
Contract: whether the string literals of a line end on it.

Owns: the characters that end a line, a scanner for literals in either kind of quotes that lets none
go on beyond its line, and what it finds of literals as they are written and of texts put together
from them.

Does not own: the lines of a bundle (`Proofs.Bundle.WrapperLines`).
-/

namespace TemplateBundle.Text

/-- The character ends a line. -/
def IsLineBreak (character : Char) : Prop := character = '\n' ∨ character = '\r'

instance : DecidablePred IsLineBreak := fun character =>
  inferInstanceAs (Decidable (character = '\n' ∨ character = '\r'))

/-- A line ends among the characters. -/
def HasLineBreak (characters : List Char) : Prop := ∃ character ∈ characters, IsLineBreak character

instance (characters : List Char) : Decidable (HasLineBreak characters) :=
  List.decidableBEx IsLineBreak characters

/-- The character opens a literal, and ends it. -/
def IsQuote (character : Char) : Prop := character = '"' ∨ character = '\''

instance : DecidablePred IsQuote := fun character =>
  inferInstanceAs (Decidable (character = '"' ∨ character = '\''))

/-- Where a scanner for literals stands. -/
inductive LiteralState where
  | outside
  | inside (quote : Char)
  /-- Behind a backslash inside of a literal. -/
  | escaped (quote : Char)
deriving DecidableEq

/-- Where the scanner stands after one more character. No line may end inside of a literal. -/
def LiteralState.next? : LiteralState → Char → Option LiteralState
  | .outside, character => some (if IsQuote character then .inside character else .outside)
  | .inside quote, character =>
      if IsLineBreak character then none
      else if character = '\\' then some (.escaped quote)
      else if character = quote then some .outside
      else some (.inside quote)
  | .escaped quote, character => if IsLineBreak character then none else some (.inside quote)

/-- Where the scanner stands after some characters. -/
def scan (state : LiteralState) (characters : List Char) : Option LiteralState :=
  characters.foldlM LiteralState.next? state

/-- Every literal that begins among the characters ends among them, on its own line. -/
def LiteralsEnd (characters : List Char) : Prop := scan .outside characters = some .outside

instance (characters : List Char) : Decidable (LiteralsEnd characters) :=
  inferInstanceAs (Decidable (scan .outside characters = some .outside))

/-- What the scanner finds hangs on line breaks alone: no literal is left open, and a line ends
among the characters only inside of a literal. -/
def IsConfined (characters : List Char) : Prop :=
  scan .outside characters = if HasLineBreak characters then none else some .outside

instance (characters : List Char) : Decidable (IsConfined characters) :=
  inferInstanceAs (Decidable
    (scan .outside characters = if HasLineBreak characters then none else some .outside))

/-- The text stays on one line, and its literals end on it. -/
structure IsSound (text : String) : Prop where
  unbroken : ¬ HasLineBreak text.toList
  confined : IsConfined text.toList

instance (text : String) : Decidable (IsSound text) :=
  decidable_of_iff (¬ HasLineBreak text.toList ∧ IsConfined text.toList)
    ⟨fun ⟨unbroken, confined⟩ => ⟨unbroken, confined⟩, fun ⟨unbroken, confined⟩ =>
      ⟨unbroken, confined⟩⟩

variable {quote character : Char} {content front rest : List Char}

/-! ### Texts put together -/

@[simp] theorem not_hasLineBreak_nil : ¬ HasLineBreak [] := by
  simp [HasLineBreak]

theorem hasLineBreak_cons :
    HasLineBreak (character :: rest) ↔ IsLineBreak character ∨ HasLineBreak rest := by
  simp [HasLineBreak]

theorem hasLineBreak_append :
    HasLineBreak (front ++ rest) ↔ HasLineBreak front ∨ HasLineBreak rest := by
  simp [HasLineBreak, or_and_right, exists_or]

theorem hasLineBreak_flatMap {α : Type} (items : List α) (written : α → List Char) :
    HasLineBreak (items.flatMap written) ↔ ∃ item ∈ items, HasLineBreak (written item) := by
  constructor
  · rintro ⟨character, member, breaks⟩
    obtain ⟨item, isItem, inside⟩ := List.mem_flatMap.mp member
    exact ⟨item, isItem, character, inside, breaks⟩
  · rintro ⟨item, isItem, character, inside, breaks⟩
    exact ⟨character, List.mem_flatMap.mpr ⟨item, isItem, inside⟩, breaks⟩

theorem hasLineBreak_quoted (isQuote : IsQuote quote) :
    HasLineBreak (quote :: content ++ [quote]) ↔ HasLineBreak content := by
  have noBreak : ¬ IsLineBreak quote := by
    rcases isQuote with rfl | rfl <;> decide
  simp [hasLineBreak_cons, hasLineBreak_append, noBreak]

@[simp] theorem scan_nil (state : LiteralState) : scan state [] = some state := rfl

theorem scan_cons (state : LiteralState) (character : Char) (rest : List Char) :
    scan state (character :: rest) = (state.next? character).bind (scan · rest) :=
  List.foldlM_cons

theorem scan_append (state : LiteralState) (front rest : List Char) :
    scan state (front ++ rest) = (scan state front).bind (scan · rest) :=
  List.foldlM_append

/-- The scanner goes through what is shielded, unless a line ends there. -/
theorem scan_shielded (shielded : Shielded quote content) :
    scan (.inside quote) content = if HasLineBreak content then none else some (.inside quote) := by
  induction shielded with
  | nil => rfl
  | @plain character rest noQuote noBackslash _ inductionHypothesis =>
      rw [scan_cons, LiteralState.next?, if_neg noBackslash, if_neg noQuote]
      by_cases breaks : IsLineBreak character
      · simp [breaks, hasLineBreak_cons]
      · simp [breaks, hasLineBreak_cons, inductionHypothesis]
  | @escape character rest _ inductionHypothesis =>
      have first : LiteralState.next? (.inside quote) '\\' = some (.escaped quote) := by
        rw [LiteralState.next?, if_neg (by decide), if_pos rfl]
      have noBreak : ¬ IsLineBreak '\\' := by decide
      rw [scan_cons, first, Option.bind_some, scan_cons, LiteralState.next?]
      by_cases breaks : IsLineBreak character
      · simp [breaks, hasLineBreak_cons]
      · simp [breaks, noBreak, hasLineBreak_cons, inductionHypothesis]

/-- A literal that is opened is still open behind what is shielded. -/
theorem scan_opened (isQuote : IsQuote quote) (shielded : Shielded quote content) :
    scan .outside (quote :: content) =
      if HasLineBreak content then none else some (.inside quote) := by
  rw [scan_cons, LiteralState.next?, if_pos isQuote, Option.bind_some, scan_shielded shielded]

namespace IsConfined

theorem literalsEnd_iff (confined : IsConfined content) :
    LiteralsEnd content ↔ ¬ HasLineBreak content := by
  unfold LiteralsEnd
  rw [confined]
  by_cases breaks : HasLineBreak content <;> simp [breaks]

theorem append (first : IsConfined front) (second : IsConfined rest) :
    IsConfined (front ++ rest) := by
  unfold IsConfined
  rw [scan_append, first]
  by_cases breaks : HasLineBreak front
  · simp [breaks, hasLineBreak_append]
  · simp only [breaks, hasLineBreak_append, ↓reduceIte, Option.bind_some, false_or]
    exact second

/-- Characters that are neither line breaks nor quotes. -/
theorem of_plain (plain : ∀ character ∈ content, ¬ IsLineBreak character ∧ ¬ IsQuote character) :
    IsConfined content := by
  induction content with
  | nil => rfl
  | cons character rest inductionHypothesis =>
      rw [List.forall_mem_cons] at plain
      obtain ⟨⟨noBreak, noQuote⟩, plainRest⟩ := plain
      unfold IsConfined
      rw [scan_cons, LiteralState.next?, if_neg noQuote, Option.bind_some,
        inductionHypothesis plainRest]
      simp [hasLineBreak_cons, noBreak]

/-- A literal in either kind of quotes. -/
theorem of_shielded (isQuote : IsQuote quote) (shielded : Shielded quote content) :
    IsConfined (quote :: content ++ [quote]) := by
  have closes : LiteralState.next? (.inside quote) quote = some .outside := by
    rcases isQuote with rfl | rfl <;> decide
  unfold IsConfined
  rw [scan_append, scan_opened isQuote shielded]
  simp only [hasLineBreak_quoted isQuote]
  by_cases breaks : HasLineBreak content
  · simp [breaks]
  · simp [breaks, scan_cons, closes]

end IsConfined

namespace IsSound

variable {text front rest : String}

theorem literalsEnd (sound : IsSound text) : LiteralsEnd text.toList :=
  sound.confined.literalsEnd_iff.mpr sound.unbroken

theorem append (first : IsSound front) (second : IsSound rest) : IsSound (front ++ rest) where
  unbroken := by
    rw [String.toList_append, hasLineBreak_append, not_or]
    exact ⟨first.unbroken, second.unbroken⟩
  confined := by
    rw [String.toList_append]
    exact first.confined.append second.confined

theorem join {texts : List String} (each : ∀ text ∈ texts, IsSound text) :
    IsSound (String.join texts) := by
  induction texts with
  | nil => decide
  | cons first others inductionHypothesis =>
      rw [List.forall_mem_cons] at each
      rw [String.join_cons]
      exact each.1.append (inductionHypothesis each.2)

theorem of_plain
    (plain : ∀ character ∈ text.toList, ¬ IsLineBreak character ∧ ¬ IsQuote character) :
    IsSound text where
  unbroken := fun ⟨character, member, breaks⟩ => (plain character member).1 breaks
  confined := .of_plain plain

end IsSound

/-! ### Literals as they are written -/

theorem not_hasLineBreak_literal (content : List Char) :
    ¬ HasLineBreak (content.flatMap (literalCharacter .all)) := by
  rintro ⟨character, written, breaks⟩
  have noControl := no_control_literal content character written
  rcases breaks with rfl | rfl <;> exact absurd noControl (by decide)

theorem isSound_doubleQuoted (text : String) : IsSound (doubleQuoted text) where
  unbroken := by
    rw [doubleQuoted, String.toList_ofList, literalCharacters, hasLineBreak_quoted (.inl rfl)]
    exact not_hasLineBreak_literal text.toList
  confined := by
    rw [doubleQuoted, String.toList_ofList]
    exact .of_shielded (.inl rfl) (shielded_literal text.toList)

theorem isConfined_singleQuoted (text : String) : IsConfined (singleQuoted text).toList := by
  rw [singleQuoted, String.toList_ofList]
  refine .of_shielded (.inr rfl) (.flatMap (fun character => ?_) text.toList)
  unfold singleQuotedCharacter
  split
  · exact .escape _ .nil
  · split
    · exact .escape _ .nil
    · exact .plain ‹_› ‹_› .nil

theorem hasLineBreak_singleQuotedCharacter (character : Char) :
    HasLineBreak (singleQuotedCharacter character) ↔ IsLineBreak character := by
  unfold singleQuotedCharacter
  split
  · subst character
    decide
  · split
    · subst character
      decide
    · simp [HasLineBreak]

/-- Line breaks go into a single-quoted literal as they are. -/
theorem hasLineBreak_singleQuoted (text : String) :
    HasLineBreak (singleQuoted text).toList ↔ HasLineBreak text.toList := by
  rw [singleQuoted, String.toList_ofList, hasLineBreak_quoted (.inr rfl), hasLineBreak_flatMap]
  exact exists_congr fun character =>
    and_congr_right' (hasLineBreak_singleQuotedCharacter character)

end TemplateBundle.Text
