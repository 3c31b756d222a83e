import Mathlib.Data.List.Basic
import TemplateBundle.Proofs.Bundle.Statements
import TemplateBundle.Proofs.Options.Reading

/-!
Contract: the opening of an AMD module, read back.

Owns: a reader of single-quoted literals, of lists of them, and of whole openings; and the law that
an opening is read as the dependencies and the runtime that it was written from.

The reader knows nothing of how literals are written. It takes the character after a backslash as it
is, and ends a literal at the first quote that no backslash protects.
-/

namespace TemplateBundle

namespace Text

variable {characters content rest following : List Char} {item : String}

/-! ### A reader -/

/-- What stands before the quote that ends a literal, and what follows the quote. -/
def readQuoted? : List Char → Option (List Char × List Char)
  | [] => none
  | '\'' :: rest => some ([], rest)
  | '\\' :: [] => none
  | '\\' :: character :: rest =>
      (readQuoted? rest).map fun (content, following) => (character :: content, following)
  | character :: rest =>
      (readQuoted? rest).map fun (content, following) => (character :: content, following)

/-- A single-quoted literal at the begin of some characters, and what follows it. -/
def readLiteral? : List Char → Option (String × List Char)
  | '\'' :: rest =>
      (readQuoted? rest).map fun (content, following) => (String.ofList content, following)
  | _ => none

theorem readQuoted?_shortens (reads : readQuoted? characters = some (content, following)) :
    following.length < characters.length := by
  fun_induction readQuoted? characters generalizing content with
  | case1 | case3 => simp at reads
  | case2 rest =>
      obtain ⟨_, rfl⟩ := Prod.mk.inj (Option.some.inj reads)
      simp
  | case4 character rest inductionHypothesis | case5 character rest _ _ _ inductionHypothesis =>
      obtain ⟨⟨more, left⟩, readsRest, same⟩ := Option.map_eq_some_iff.mp reads
      obtain ⟨_, rfl⟩ := Prod.mk.inj same
      have shorter := inductionHypothesis readsRest
      simp only [List.length_cons]
      omega

theorem readLiteral?_shortens (reads : readLiteral? characters = some (item, following)) :
    following.length < characters.length := by
  unfold readLiteral? at reads
  split at reads
  · obtain ⟨⟨content, left⟩, readsRest, same⟩ := Option.map_eq_some_iff.mp reads
    obtain ⟨_, rfl⟩ := Prod.mk.inj same
    exact Nat.lt_succ_of_lt (readQuoted?_shortens readsRest)
  · simp at reads

/-- Literals with a comma and a blank between them, up to a bracket, and what follows that. -/
def readItems? (characters : List Char) : Option (List String × List Char) :=
  match _ : readLiteral? characters with
  | some (item, ']' :: following) => some ([item], following)
  | some (item, ',' :: ' ' :: rest) =>
      (readItems? rest).map fun (items, following) => (item :: items, following)
  | _ => none
termination_by characters.length
decreasing_by
  rename_i reads
  have shorter := readLiteral?_shortens reads
  simp only [List.length_cons] at shorter
  omega

/-- A list of literals up to its bracket, which may come at once. -/
def readList? : List Char → Option (List String × List Char)
  | ']' :: following => some ([], following)
  | characters => readItems? characters

/-! ### What was written -/

/-- The characters with a backslash before each one that is the mark. -/
def protect (mark : Char) (characters : List Char) : List Char :=
  characters.flatMap fun character => if character = mark then ['\\', mark] else [character]

/-- A text is escaped as by two passes over it, of which the first is for the backslashes. -/
theorem flatMap_singleQuotedCharacter (content : List Char) :
    content.flatMap singleQuotedCharacter = protect '\'' (protect '\\' content) := by
  unfold protect
  rw [List.flatMap_assoc]
  refine List.flatMap_congr fun character _ => ?_
  by_cases isBackslash : character = '\\'
  · simp [singleQuotedCharacter, isBackslash]
  · simp [singleQuotedCharacter, isBackslash]

theorem readQuoted?_written (content following : List Char) :
    readQuoted? (content.flatMap singleQuotedCharacter ++ '\'' :: following) =
      some (content, following) := by
  induction content with
  | nil => rfl
  | cons character rest inductionHypothesis =>
      rw [List.flatMap_cons, List.append_assoc]
      by_cases isBackslash : character = '\\'
      · simp [singleQuotedCharacter, isBackslash, readQuoted?, inductionHypothesis]
      · by_cases isQuote : character = '\''
        · simp [singleQuotedCharacter, isQuote, readQuoted?, inductionHypothesis]
        · simp [singleQuotedCharacter, isBackslash, isQuote, readQuoted?, inductionHypothesis]

/-- A literal ends where it was written to, whatever its text holds and whatever follows it. -/
theorem readLiteral?_singleQuoted (text : String) (following : List Char) :
    readLiteral? ((singleQuoted text).toList ++ following) = some (text, following) := by
  have written : (singleQuoted text).toList ++ following =
      '\'' :: (text.toList.flatMap singleQuotedCharacter ++ '\'' :: following) := by
    simp [singleQuoted]
  rw [written, readLiteral?, readQuoted?_written]
  simp

theorem readItems?_last (reads : readLiteral? characters = some (item, ']' :: following)) :
    readItems? characters = some ([item], following) := by
  rw [readItems?]
  split <;> simp_all

theorem readItems?_next (reads : readLiteral? characters = some (item, ',' :: ' ' :: rest)) :
    readItems? characters =
      (readItems? rest).map fun (items, following) => (item :: items, following) := by
  rw [readItems?]
  split <;> simp_all

theorem readItems?_written (first : String) (others : List String) (following : List Char) :
    readItems? ((Statement.dependencyList (first :: others)).toList ++ ']' :: following) =
      some (first :: others, following) := by
  induction others generalizing first with
  | nil =>
      refine readItems?_last ?_
      exact readLiteral?_singleQuoted first (']' :: following)
  | cons second rest inductionHypothesis =>
      have written : (Statement.dependencyList (first :: second :: rest)).toList ++
            ']' :: following =
          (singleQuoted first).toList ++ ',' :: ' ' ::
            ((Statement.dependencyList (second :: rest)).toList ++ ']' :: following) := by
        simp [Statement.dependencyList_cons_cons]
      rw [written, readItems?_next (readLiteral?_singleQuoted first _), inductionHypothesis]
      rfl

theorem readList?_written (items : List String) (following : List Char) :
    readList? ((Statement.dependencyList items).toList ++ ']' :: following) =
      some (items, following) := by
  cases items with
  | nil => rfl
  | cons first others =>
      rw [← readItems?_written first others following]
      cases others <;> simp [Statement.dependencyList, singleQuoted, readList?]

end Text

/-! ### Whole openings -/

namespace Statement

variable {dependencies : List String} {runtime : String}

/-- The dependencies and the runtime that an opening of an AMD module names. -/
def readOpening? (text : String) : Option (List String × String) := do
  let list ← "define([".toList.isPrefixOf? text.toList
  let (dependencies, afterList) ← Text.readList? list
  let parameter ← ", function(".toList.isPrefixOf? afterList
  let runtime := parameter.takeWhile (· ≠ ')')
  if parameter.dropWhile (· ≠ ')') = ") \x7b".toList then
    some (dependencies, String.ofList runtime)
  else none

theorem ne_parenthesis_of_isRuntimeName (accepted : Reading.isRuntimeName runtime = true) :
    ∀ character ∈ runtime.toList, character ≠ ')' := by
  rintro _ member rfl
  exact Reading.not_mem_of_isRuntimeName accepted (by decide +kernel) member

theorem readOpening?_amdOpen (dependencies : List String)
    (accepted : Reading.isRuntimeName runtime = true) :
    readOpening? (amdOpen dependencies runtime).text = some (dependencies, runtime) := by
  have noParenthesis := ne_parenthesis_of_isRuntimeName accepted
  have written : (amdOpen dependencies runtime).text.toList =
      "define([".toList ++ ((dependencyList dependencies).toList ++ ']' ::
        (", function(".toList ++ (runtime.toList ++ ") \x7b".toList))) := by
    have spelled : (amdOpen dependencies runtime).text =
        "define([" ++ dependencyList dependencies ++ "], function(" ++ runtime ++ ") \x7b" := rfl
    simp [spelled]
  have named : (runtime.toList ++ ") \x7b".toList).takeWhile (· ≠ ')') = runtime.toList := by
    rw [List.takeWhile_append_of_pos (by simpa using noParenthesis)]
    simp
  have left : (runtime.toList ++ ") \x7b".toList).dropWhile (· ≠ ')') = ") \x7b".toList := by
    rw [List.dropWhile_append_of_pos (by simpa using noParenthesis)]
    simp
  have begins (front rest : List Char) : front.isPrefixOf? (front ++ rest) = some rest :=
    List.isPrefixOf?_eq_some_iff_append_eq.mpr rfl
  unfold readOpening?
  rw [written, begins]
  simp only [Option.bind_eq_bind, Option.bind_some]
  rw [Text.readList?_written, Option.bind_some]
  dsimp only
  rw [begins, Option.bind_some, named, left]
  simp

/-- The opening that is written for some dependencies is read back as just these and the runtime.
Two openings that are the same text name the same dependencies and the same runtime; the literal of
a dependency, whatever text that is, is read up to its own end, whatever follows it; and an opening
of this form is among the lines wherever the rule of a task gives these dependencies. -/
theorem amdOpen_unambiguous (dependencies : List String)
    (accepted : Reading.isRuntimeName runtime = true) :
    readOpening? (amdOpen dependencies runtime).text = some (dependencies, runtime) ∧
    (∀ others other, Reading.isRuntimeName other = true →
      (amdOpen others other).text = (amdOpen dependencies runtime).text →
      others = dependencies ∧ other = runtime) ∧
    (∀ (dependency : String) (following : List Char),
      Text.readLiteral? ((Text.singleQuoted dependency).toList ++ following) =
        some (dependency, following)) ∧
    ∀ environment options name ast compiled, options.amd.isOn = true → options.runtime = runtime →
      options.amd.dependencies id environment name ast compiled = .ok dependencies →
      ∃ lines, Bundle.opening environment options name ast compiled = .ok lines ∧
        amdOpen dependencies runtime ∈ lines := by
  refine ⟨readOpening?_amdOpen dependencies accepted, ?_, Text.readLiteral?_singleQuoted, ?_⟩
  · intro others other acceptedOther same
    have read := readOpening?_amdOpen others acceptedOther
    rw [same, readOpening?_amdOpen dependencies accepted] at read
    obtain ⟨rfl, rfl⟩ := Prod.mk.inj (Option.some.inj read)
    exact ⟨rfl, rfl⟩
  · rintro environment options name ast compiled isOn rfl gives
    unfold Bundle.opening
    simp only [isOn, gives, ↓reduceIte, bind, Except.bind]
    exact ⟨_, rfl, by simp⟩

/-- Dependencies whose texts look like the end of a literal, of the list, or of the opening. -/
def hostileDependencies : List String :=
  ["a', 'b", "c\\", "\\'], function(x) ", "", ", ", "]"]

theorem amdOpen_unambiguous_for_hostile_dependencies :
    Reading.isRuntimeName "$Handlebars" = true ∧
    (amdOpen hostileDependencies "$Handlebars").text =
      "define(['a\\', \\'b', 'c\\\\', '\\\\\\'], function(x) ', '', ', ', ']'], " ++
        "function($Handlebars) \x7b" ∧
    readOpening? (amdOpen hostileDependencies "$Handlebars").text =
      some (hostileDependencies, "$Handlebars") := by
  have accepted : Reading.isRuntimeName "$Handlebars" = true := by decide +kernel
  exact ⟨accepted, by rfl, (amdOpen_unambiguous hostileDependencies accepted).1⟩

end Statement

end TemplateBundle
