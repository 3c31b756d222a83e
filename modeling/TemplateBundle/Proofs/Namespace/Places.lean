import TemplateBundle.Bundle.Statement
import TemplateBundle.Proofs.Value.Literal

/-!
Contract: the written forms of namespaces and of the places in them.

Owns: the characters of a bracket form, the law that one form begins with another just where the
paths do, that a place in a namespace is written as the path that ends in its name, and that two
places written alike are one place.
-/

namespace TemplateBundle

open Text

namespace Namespace

variable {path target : List String}

theorem bracketPath_append (first second : List String) :
    bracketPath (first ++ second) =
      bracketPath first ++ String.join (second.map bracketSegment) := by
  simp [bracketPath, String.append_assoc]

theorem bracketSegment_toList (segment : String) :
    (bracketSegment segment).toList =
      '[' :: '"' :: (segment.toList.flatMap (literalCharacter .all) ++ ['"', ']']) := by
  simp [bracketSegment, doubleQuoted, literalCharacters]

theorem bracketPath_toList (target : List String) :
    (bracketPath target).toList =
      "this".toList ++ target.flatMap fun segment => (bracketSegment segment).toList := by
  simp [bracketPath, List.flatMap_def, Function.comp_def]

/-- The segments of one path begin those of another if they do so as they are written. -/
theorem bracketSegments_prefix_iff :
    (path.flatMap fun segment => (bracketSegment segment).toList) <+:
      (target.flatMap fun segment => (bracketSegment segment).toList) ↔ path <+: target := by
  constructor
  · intro isPrefix
    induction path generalizing target with
    | nil => exact List.nil_prefix
    | cons segment rest inductionHypothesis =>
        obtain ⟨more, same⟩ := isPrefix
        cases target with
        | nil => simp [bracketSegment_toList] at same
        | cons other others =>
            simp only [List.flatMap_cons, bracketSegment_toList segment,
              bracketSegment_toList other, List.cons_append, List.append_assoc, List.nil_append,
              List.cons.injEq, true_and] at same
            obtain ⟨literal, same⟩ := Value.literal_unique .all same
            have segments : segment = other := String.toList_inj.mp literal
            have later := inductionHypothesis ⟨more, (List.cons.inj same).2⟩
            rw [segments]
            exact (List.prefix_cons_inj other).mpr later
  · rintro ⟨rest, rfl⟩
    rw [List.flatMap_append]
    exact List.prefix_append _ _

theorem bracketPath_prefix_iff :
    (bracketPath path).toList <+: (bracketPath target).toList ↔ path <+: target := by
  rw [bracketPath_toList, bracketPath_toList, List.prefix_append_right_inj,
    bracketSegments_prefix_iff]

theorem bracketPath_injective : Function.Injective bracketPath := by
  intro path target same
  have forth : path <+: target := bracketPath_prefix_iff.mp (by simp [same])
  have back : target <+: path := bracketPath_prefix_iff.mp (by simp [same])
  exact forth.eq_of_length_le back.length_le

end Namespace

namespace Statement

open Namespace (bracketPath bracketPath_append bracketPath_injective bracketPath_prefix_iff)

theorem nameLiteral_text (name : String) : nameLiteral (.text name) = doubleQuoted name := by
  rw [nameLiteral, Value.document, Value.writeDocument]
  rfl

/-- A place is written as the path that goes on with its name. -/
theorem place_eq_bracketPath {target : List String} (some : target ≠ []) (name : String) :
    place target (.text name) = bracketPath (target ++ [name]) := by
  rw [place, Namespace.expression, if_neg some, bracketPath_append, nameLiteral_text]
  simp [Namespace.bracketSegment, String.append_assoc]

/-- The places that templates are assigned to do not collide. Whether one path begins another can
be seen from their written forms. A statement that assigns into a namespace writes its place as
the path that goes on with the name, and two places are the same text only for one namespace and
one name. -/
theorem places_distinct :
    (∀ path target : List String,
      (bracketPath path).toList <+: (bracketPath target).toList ↔ path <+: target) ∧
    Function.Injective bracketPath ∧
    (∀ (target : List String) (name : String), target ≠ [] →
      place target (.text name) = bracketPath (target ++ [name]) ∧
      (∀ body, (assign target (.text name) body).text =
        bracketPath (target ++ [name]) ++ " = " ++ body ++ ";") ∧
      ∀ runtime body, (registerIn runtime (.text name) target body).text =
        runtime ++ ".registerPartial(" ++ doubleQuoted name ++ ", " ++
          bracketPath (target ++ [name]) ++ " = " ++ body ++ ");") ∧
    ∀ (first second : List String) (name other : String), first ≠ [] → second ≠ [] →
      (place first (.text name) = place second (.text other) ↔ first = second ∧ name = other) := by
  refine ⟨fun path target => bracketPath_prefix_iff, bracketPath_injective, ?_, ?_⟩
  · intro target name some
    rw [← place_eq_bracketPath some, ← nameLiteral_text]
    exact ⟨rfl, fun body => rfl, fun runtime body => rfl⟩
  · intro first second name other some someOther
    rw [place_eq_bracketPath some, place_eq_bracketPath someOther, bracketPath_injective.eq_iff]
    constructor
    · intro same
      obtain ⟨targets, names⟩ := List.append_inj' same rfl
      exact ⟨targets, (List.cons.inj names).1⟩
    · rintro ⟨rfl, rfl⟩
      rfl

/-- A name that looks like the end of a place and the begin of the next one stays a name. -/
theorem places_distinct_for_a_bracketed_name :
    ["App"] ≠ [] ∧ ["App", "a"] ≠ [] ∧
      place ["App"] (.text "a\"][\"b") = "this[\"App\"][\"a\\\"][\\\"b\"]" ∧
      place ["App"] (.text "a\"][\"b") ≠ place ["App", "a"] (.text "b") := by
  have some : ["App"] ≠ [] := by decide
  have someOther : ["App", "a"] ≠ [] := by decide
  refine ⟨some, someOther, ?_, ?_⟩
  · rw [(places_distinct.2.2.1 ["App"] "a\"][\"b" some).1]
    rfl
  · rw [ne_eq, places_distinct.2.2.2 ["App"] ["App", "a"] "a\"][\"b" "b" some someOther]
    decide

end Statement

end TemplateBundle
