import TemplateBundle.Bundle.Assembly
import TemplateBundle.Proofs.OutputStream

/-!
Contract: the text of a file of statements.

Owns: which statements have a text, the text of a whole file, and the law that joining groups
of statements first and then the groups gives the same text as one flat join.

Does not own: which statements a bundle has (`Proofs.Bundle.Assembly`).
-/

namespace TemplateBundle

namespace Statement

/-- The statement says something: only a declaration of nothing does not. -/
def IsFilled (statement : Statement) : Prop := statement ≠ .declare []

/-- The statement registers a partial, or assigns, returns or evaluates a template. -/
def isContribution : Statement → Bool
  | .register _ _ _ => true
  | .registerIn _ _ _ _ => true
  | .assign _ _ _ => true
  | .returnTemplate _ => true
  | .returnTemplateBare _ => true
  | .evaluate _ => true
  | _ => false

/-- The statement opens or closes a wrapper, or returns or exports a namespace. -/
def isWrapper : Statement → Bool
  | .commonjsOpen _ => true
  | .amdOpen _ _ => true
  | .nodeGlobal => true
  | .nodeRuntime _ => true
  | .nodeExport _ => true
  | .returnShared _ => true
  | .returnLast _ => true
  | .amdClose => true
  | .commonjsClose => true
  | _ => false

/-- The text of a file of statements: a line feed ends it if there are any. -/
def document (separator : String) (statements : List Statement) : String :=
  if statements = [] then "" else render separator statements ++ "\n"

theorem filled_of_isWrapper {statement : Statement} (wraps : statement.isWrapper = true) :
    statement.IsFilled := by
  rintro rfl
  simp [isWrapper] at wraps

theorem filled_of_isContribution {statement : Statement}
    (contributes : statement.isContribution = true) : statement.IsFilled := by
  rintro rfl
  simp [isContribution] at contributes

theorem isContribution_of_isWrapper {statement : Statement}
    (wraps : statement.isWrapper = true) : statement.isContribution = false := by
  cases statement <;> simp_all [isWrapper, isContribution]

theorem dependencyList_cons_cons (first second : String) (others : List String) :
    dependencyList (first :: second :: others) =
      Text.singleQuoted first ++ ", " ++ dependencyList (second :: others) := by
  simp [dependencyList, String.intercalate_cons_cons]

private theorem ne_empty_of_toList {text : String} (filled : text.toList ≠ []) : text ≠ "" := by
  rintro rfl
  exact filled rfl

private theorem declarationsText_ne_empty {paths : List (List String)} (some : paths ≠ []) :
    Namespace.declarationsText paths ≠ "" := by
  obtain ⟨first, rest, rfl⟩ := List.exists_cons_of_ne_nil some
  apply ne_empty_of_toList
  have start : (Namespace.declarationText (Namespace.bracketPath first)).toList ≠ [] := by
    simp [Namespace.declarationText, Namespace.bracketPath]
  cases rest with
  | nil => simpa [Namespace.declarationsText] using start
  | cons second others =>
      simp only [Namespace.declarationsText, List.map_cons, String.intercalate_cons_cons,
        String.toList_append]
      simp [start]

theorem text_ne_empty {statement : Statement} (filled : statement.IsFilled) :
    statement.text ≠ "" := by
  cases statement with
  | declare paths =>
      exact declarationsText_ne_empty fun none => filled (by rw [none])
  | nodeGlobal => decide
  | amdClose => decide
  | commonjsClose => decide
  | _ =>
      unfold text
      simp

theorem render_nil (separator : String) : render separator [] = "" := rfl

theorem render_ne_empty (separator : String) {statements : List Statement}
    (some : statements ≠ []) (filled : ∀ statement ∈ statements, statement.IsFilled) :
    render separator statements ≠ "" := by
  obtain ⟨first, rest, rfl⟩ := List.exists_cons_of_ne_nil some
  have start := text_ne_empty (filled first (by simp))
  unfold render
  cases rest with
  | nil => simpa using start
  | cons second others =>
      rw [List.map_cons, List.map_cons, String.intercalate_cons_cons]
      simp [String.append_eq_empty_iff, start]

theorem render_append {separator : String} {first second : List Statement}
    (firstSome : first ≠ []) (secondSome : second ≠ []) :
    render separator (first ++ second) =
      render separator first ++ separator ++ render separator second := by
  unfold render
  rw [List.map_append, String.intercalate_append_of_ne_nil (by simpa using firstSome)
    (by simpa using secondSome)]

end Statement

namespace OutputStream

open Statement

variable {groups : List (List Statement)}

theorem hasPiece_render (separator : String)
    (filled : ∀ group ∈ groups, ∀ statement ∈ group, statement.IsFilled) :
    hasPiece (groups.map (render separator)) = decide (groups.flatten ≠ []) := by
  induction groups with
  | nil => rfl
  | cons group rest inductionHypothesis =>
      have tail := inductionHypothesis fun other member => filled other (by simp [member])
      unfold hasPiece at tail ⊢
      rw [List.map_cons, List.any_cons, tail]
      by_cases none : group = []
      · subst none
        simp [render_nil]
      · have some := render_ne_empty separator none (filled group (by simp))
        simp [none, some]

/-- Statements joined in groups, and the groups joined, are the statements joined. -/
theorem joined_render (separator : String)
    (filled : ∀ group ∈ groups, ∀ statement ∈ group, statement.IsFilled) :
    joined separator (groups.map (render separator)) = render separator groups.flatten := by
  induction groups with
  | nil => rfl
  | cons group rest inductionHypothesis =>
      have filledRest : ∀ other ∈ rest, ∀ statement ∈ other, statement.IsFilled :=
        fun other member => filled other (by simp [member])
      have tail := inductionHypothesis filledRest
      have pieces := hasPiece_render separator filledRest
      unfold joined at tail ⊢
      rw [List.map_cons, List.flatten_cons]
      by_cases none : group = []
      · subst none
        simpa [render_nil] using tail
      · have some := render_ne_empty separator none (filled group (by simp))
        rw [List.filter_cons_of_pos (by simpa using some)]
        by_cases restNone : rest.flatten = []
        · have noPieces := filter_eq_nil (pieces.trans (by simp [restNone]))
          rw [noPieces, restNone]
          simp
        · have morePieces := filter_ne_nil (pieces.trans (by simp [restNone]))
          rw [String.intercalate_cons_of_ne_nil morePieces, tail, render_append none restNone]

/-- A closed file of groups of statements is the document of all of them. -/
theorem finished_render (separator : String)
    (filled : ∀ group ∈ groups, ∀ statement ∈ group, statement.IsFilled) :
    finished separator (groups.map (render separator)) =
      document separator groups.flatten := by
  unfold finished document
  rw [joined_render separator filled, hasPiece_render separator filled]
  by_cases none : groups.flatten = []
  · rw [none]
    simp [render_nil]
  · simp [none]

end OutputStream

end TemplateBundle
