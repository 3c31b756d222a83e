import Mathlib.Data.List.DropRight
import TemplateBundle.Text.Blank

/-!
Contract: text without the blanks at its ends.

Owns: the law that such a text has no blanks at its ends to be taken away again, that nothing
else is left of a text of blanks, and what is taken away of two texts put together.
-/

namespace TemplateBundle.Text

variable {characters : List Char}

/-- What is left of a text without its leading blanks starts with no blank. -/
theorem not_isBlank_of_trimStart (some : 0 < (trimStart characters).length) :
    ¬ isBlank (trimStart characters)[0] = true :=
  List.dropWhile_get_zero_not isBlank characters some

@[simp] theorem trimEnd_trimEnd (characters : List Char) :
    trimEnd (trimEnd characters) = trimEnd characters :=
  List.rdropWhile_idempotent isBlank characters

@[simp] theorem trim_trim (characters : List Char) : trim (trim characters) = trim characters := by
  have isPrefix : trim characters <+: trimStart characters :=
    List.rdropWhile_prefix isBlank (trimStart characters)
  have start : trimStart (trim characters) = trim characters := by
    refine List.dropWhile_eq_self_iff.mpr fun some => ?_
    rw [isPrefix.getElem some]
    exact not_isBlank_of_trimStart (Nat.lt_of_lt_of_le some isPrefix.length_le)
  have again : trim (trim characters) = trimEnd (trim characters) := congrArg trimEnd start
  rw [again]
  exact trimEnd_trimEnd (trimStart characters)

/-- The characters are nothing but blanks. -/
def AreBlanks (characters : List Char) : Prop := ∀ character ∈ characters, isBlank character = true

instance : DecidablePred AreBlanks := fun characters =>
  List.decidableBAll (fun character => isBlank character = true) characters

/-- No blanks stand before a text that starts with another character. -/
theorem AreBlanks.eq_nil {blanks rest more : List Char} {character : Char}
    (all : AreBlanks blanks) (same : blanks ++ rest = character :: more)
    (notBlank : isBlank character = false) : blanks = [] := by
  cases blanks with
  | nil => rfl
  | cons first others =>
      obtain ⟨rfl, _⟩ := List.cons.inj same
      rw [all first (by simp)] at notBlank
      exact Bool.noConfusion notBlank

theorem trimStart_eq_nil_iff : trimStart characters = [] ↔ AreBlanks characters :=
  List.dropWhile_eq_nil_iff

theorem trimEnd_eq_nil_iff : trimEnd characters = [] ↔ AreBlanks characters :=
  List.rdropWhile_eq_nil_iff

theorem trim_eq_nil_iff : trim characters = [] ↔ AreBlanks characters := by
  have blanks : trim characters = [] ↔ AreBlanks (trimStart characters) := trimEnd_eq_nil_iff
  rw [blanks]
  constructor
  · intro rest
    by_contra some
    have left : 0 < (trimStart characters).length := by
      apply List.length_pos_iff.mpr
      intro none
      exact some (trimStart_eq_nil_iff.mp none)
    exact not_isBlank_of_trimStart left (rest _ (List.getElem_mem left))
  · intro all character member
    exact all character ((List.dropWhile_suffix isBlank).subset member)

/-- The leading blanks of two texts are those of the first, if it holds anything else. -/
theorem trimStart_append {front : List Char} (some : ¬ AreBlanks front) (back : List Char) :
    trimStart (front ++ back) = trimStart front ++ back := by
  have left : trimStart front ≠ [] := fun none => some (trimStart_eq_nil_iff.mp none)
  unfold trimStart at left ⊢
  rw [List.dropWhile_append, if_neg (by simpa using left)]

/-- The trailing blanks of two texts are those of the second, if it holds anything else. -/
theorem trimEnd_append (front : List Char) {back : List Char} (some : ¬ AreBlanks back) :
    trimEnd (front ++ back) = front ++ trimEnd back := by
  have left : trimStart back.reverse ≠ [] := by
    intro none
    exact some fun character member =>
      trimStart_eq_nil_iff.mp none character (List.mem_reverse.mpr member)
  unfold trimStart at left
  unfold trimEnd
  rw [List.reverse_append, List.dropWhile_append, if_neg (by simpa using left),
    List.reverse_append, List.reverse_reverse]

/-- Blanks behind a text are taken away with its own. -/
theorem trimEnd_append_blanks (front : List Char) {blanks : List Char} (all : AreBlanks blanks) :
    trimEnd (front ++ blanks) = trimEnd front := by
  unfold trimEnd
  rw [List.reverse_append, List.dropWhile_append_of_pos]
  intro character member
  exact all character (List.mem_reverse.mp member)

@[simp] theorem trim_trimStart (characters : List Char) :
    trim (trimStart characters) = trim characters :=
  congrArg trimEnd (List.dropWhile_idempotent isBlank characters)

@[simp] theorem trim_trimEnd (characters : List Char) :
    trim (trimEnd characters) = trim characters := by
  have split : trimEnd characters ++ characters.rtakeWhile isBlank = characters :=
    List.rdropWhile_append_rtakeWhile
  have blanks : AreBlanks (characters.rtakeWhile isBlank) := fun _ => List.mem_rtakeWhile_imp
  by_cases none : AreBlanks (trimEnd characters)
  · have all : AreBlanks characters := by
      rw [← split]
      intro character member
      exact (List.mem_append.mp member).elim (none character) (blanks character)
    rw [trim_eq_nil_iff.mpr none, trim_eq_nil_iff.mpr all]
  · calc trim (trimEnd characters)
        = trimEnd (trimStart (trimEnd characters) ++ characters.rtakeWhile isBlank) :=
          (trimEnd_append_blanks _ blanks).symm
      _ = trim (trimEnd characters ++ characters.rtakeWhile isBlank) := by
          rw [← trimStart_append none]
          rfl
      _ = trim characters := by rw [split]

@[simp] theorem strip_strip (text : String) : strip (strip text) = strip text := by
  simp [strip]

end TemplateBundle.Text
