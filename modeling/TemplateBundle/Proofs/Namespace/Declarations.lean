import Mathlib.Data.List.Nodup
import TemplateBundle.Proofs.Namespace.Places

/-!
Contract: what entering a namespace declares.

Owns: the paths that a registry lacks of the way to a namespace, the equation that entering a
namespace declares just these, in order, and that a path text names at least one segment.

Does not own: that different paths have different texts (`Proofs.Namespace.Places`).
-/

namespace TemplateBundle.Namespace

variable {target path : List String} {registry : Registry}

/-! ### The paths to a namespace -/

/-- The paths to a namespace are its beginnings, none empty. -/
theorem mem_pathsTo : path ∈ pathsTo target ↔ path ≠ [] ∧ path <+: target := by
  unfold pathsTo
  rw [List.mem_map]
  constructor
  · rintro ⟨depth, inRange, rfl⟩
    rw [List.mem_range] at inRange
    refine ⟨?_, List.take_prefix _ _⟩
    intro none
    have short := congrArg List.length none
    simp only [List.length_take, List.length_nil] at short
    omega
  · rintro ⟨notEmpty, isPrefix⟩
    have positive := List.length_pos_iff.mpr notEmpty
    have fits := isPrefix.length_le
    refine ⟨path.length - 1, by rw [List.mem_range]; omega, ?_⟩
    rw [show path.length - 1 + 1 = path.length by omega]
    exact (List.prefix_iff_eq_take.mp isPrefix).symm

theorem pathsTo_cons (segment : String) (below : List String) :
    pathsTo (segment :: below) = [segment] :: (pathsTo below).map (segment :: ·) := by
  simp [pathsTo, List.range_succ_eq_map]

theorem pathsTo_pairwise (target : List String) :
    (pathsTo target).Pairwise fun first second => first.length < second.length := by
  unfold pathsTo
  rw [List.pairwise_map]
  refine List.Pairwise.imp_of_mem ?_ List.pairwise_lt_range
  intro shorter longer _ inRange less
  rw [List.mem_range] at inRange
  simp only [List.length_take]
  omega

theorem pathsTo_nodup (target : List String) : ((pathsTo target).map bracketPath).Nodup := by
  refine List.Nodup.map bracketPath_injective ((pathsTo_pairwise target).imp ?_)
  rintro first second less rfl
  exact Nat.lt_irrefl _ less

theorem pathsTo_ne_nil (some : target ≠ []) : pathsTo target ≠ [] := by
  have positive := List.length_pos_iff.mpr some
  simp only [pathsTo, ne_eq, List.map_eq_nil_iff, List.range_eq_nil]
  omega

namespace Registry

/-- The paths to a namespace that are not declared yet. -/
def lacking (registry : Registry) (target : List String) : List (List String) :=
  (pathsTo target).filter fun path => !registry.contains (bracketPath path)

theorem contains_iff {text : String} :
    registry.contains text = true ↔ text ∈ registry.declared := by
  simp [contains]

private theorem foldl_declareFresh (paths fresh : List (List String)) (registry : Registry)
    (distinct : (paths.map bracketPath).Nodup) :
    paths.foldl declareFresh (fresh, registry) =
      (fresh ++ paths.filter (fun path => !registry.contains (bracketPath path)),
        ⟨registry.declared ++ (paths.filter fun path =>
          !registry.contains (bracketPath path)).map bracketPath⟩) := by
  induction paths generalizing fresh registry with
  | nil => simp
  | cons path rest inductionHypothesis =>
      rw [List.map_cons, List.nodup_cons] at distinct
      obtain ⟨different, distinctRest⟩ := distinct
      rw [List.foldl_cons]
      by_cases present : registry.contains (bracketPath path) = true
      · have step : declareFresh (fresh, registry) path = (fresh, registry) := by
          simp [declareFresh, declare, present]
        rw [step, inductionHypothesis fresh registry distinctRest]
        simp [present]
      · have step : declareFresh (fresh, registry) path =
            (fresh ++ [path], ⟨registry.declared ++ [bracketPath path]⟩) := by
          simp [declareFresh, declare, present]
        -- The texts of the other paths differ from this one's, so it does not matter to them.
        have same : (rest.filter fun other =>
            !(⟨registry.declared ++ [bracketPath path]⟩ : Registry).contains (bracketPath other)) =
            rest.filter fun other => !registry.contains (bracketPath other) := by
          refine List.filter_congr fun other member => ?_
          have ne : bracketPath other ≠ bracketPath path := by
            intro equal
            exact different (List.mem_map.mpr ⟨other, member, equal⟩)
          simp [contains, ne]
        rw [step, inductionHypothesis _ _ distinctRest, same]
        simp [present]

/-- Entering a namespace declares what is lacking of it. -/
theorem declareTo_eq (registry : Registry) (target : List String) :
    registry.declareTo target = (⟨target, registry.lacking target⟩,
      ⟨registry.declared ++ (registry.lacking target).map bracketPath⟩) := by
  unfold declareTo
  rw [foldl_declareFresh _ _ _ (pathsTo_nodup target)]
  rfl

theorem lacking_empty (target : List String) : empty.lacking target = pathsTo target := by
  simp [lacking, empty, contains]

/-- Every path to a namespace is declared, or it is lacking. -/
theorem declared_or_lacking (registry : Registry) (member : path ∈ pathsTo target) :
    bracketPath path ∈ registry.declared ∨ path ∈ registry.lacking target := by
  by_cases present : registry.contains (bracketPath path) = true
  · exact .inl (contains_iff.mp present)
  · exact .inr (List.mem_filter.mpr ⟨member, by simp [present]⟩)

/-- Nothing is lacking of a namespace that was entered. -/
theorem lacking_entered (registry : Registry) (target : List String) :
    (registry.declareTo target).2.lacking target = [] := by
  rw [declareTo_eq]
  refine List.filter_eq_nil_iff.mpr fun path member => ?_
  have present : bracketPath path ∈
      registry.declared ++ (registry.lacking target).map bracketPath := by
    rcases declared_or_lacking registry member with present | lacking
    · exact List.mem_append_left _ present
    · exact List.mem_append_right _ (List.mem_map_of_mem lacking)
  simp [contains, present]

theorem lacking_distinct (registry : Registry) (target : List String) :
    ((registry.lacking target).map bracketPath).Nodup :=
  (pathsTo_nodup target).sublist (List.filter_sublist.map _)

theorem not_declared_of_lacking (member : path ∈ registry.lacking target) :
    bracketPath path ∉ registry.declared := by
  have absent := (List.mem_filter.mp member).2
  intro present
  rw [contains_iff.mpr present] at absent
  simp at absent

end Registry

/-! ### Path texts -/

theorem split_ne_nil {text : String} (splits : split text = .ok target) : target ≠ [] := by
  unfold split segments at splits
  cases parts : segmentsOf true [] (chunks (Text.trim text.toList)) with
  | error fault => simp [parts] at splits
  | ok found =>
      rw [parts] at splits
      by_cases none : dropRoot found = []
      · simp [none] at splits
      · simp only [none, if_false, Except.ok.injEq] at splits
        rw [← splits]
        simpa using none

end TemplateBundle.Namespace
