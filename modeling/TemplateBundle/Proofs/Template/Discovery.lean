import TemplateBundle.Proofs.Program.Effect
import TemplateBundle.Template.Discovery

/-!
Contract: what discovery finds in a tree.

Owns: the templates among some names as a function of the tree, the effect of discovery, that
every template found is a regular file, and that names which are left out, before or after they
are sorted, leave the other templates as they are.
-/

namespace TemplateBundle.Template

variable {options : Options} {tree : FileTree} {names : List String} {templates : List Template}

/-- The templates among some names. -/
def select (options : Options) (tree : FileTree) : List String → Except Failure (List Template)
  | [] => .ok []
  | relative :: rest =>
      if isTemplateName (Path.ofString relative).name options.extensions then
        match tree.inspect (options.inputDir.join relative) with
        | .ok .regular =>
            (select options tree rest).map (ofRelative options options.inputDir relative :: ·)
        | .error .unusablePath => .error (.mishap .wrongValue FileFault.unusablePath.reason)
        | _ => select options tree rest
      else select options tree rest

/-- The templates in the input directory. -/
def discovered (options : Options) (tree : FileTree) : Except Failure (List Template) :=
  match tree.list options.inputDir options.recursive with
  | .error fault => .error (Failure.ofFile (.directory options.inputDir) fault)
  | .ok names => select options tree (sortNames names)

private theorem effect_map_cons (work : Work (List Template)) (first : Template)
    (outcome : Except Failure (List Template)) (same : Work.effect work tree = (outcome, tree)) :
    Work.effect (do
      let templates ← work
      pure (first :: templates)) tree = (outcome.map (first :: ·), tree) := by
  rw [Work.effect_bind, same]
  cases outcome with
  | error failure => rfl
  | ok templates => rfl

theorem classify_effect (options : Options) (tree : FileTree) (names : List String) :
    Work.effect (classify options options.inputDir names) tree =
      (select options tree names, tree) := by
  induction names with
  | nil => rfl
  | cons relative rest inductionHypothesis =>
      rw [classify, select]
      by_cases named : isTemplateName (Path.ofString relative).name options.extensions = true
      · rw [if_pos named, if_pos named, Work.effect_bind, Work.effect_lift,
          Program.effect_perform]
        dsimp only [FileTree.perform]
        have passing : Work.effect (do
            Program.log .debug ("Skipping non-regular entry " ++
              (options.inputDir.join relative).toString)
            classify options options.inputDir rest) tree = (select options tree rest, tree) := by
          rw [Work.effect_bind, Work.effect_lift]
          exact inductionHypothesis
        cases tree.inspect (options.inputDir.join relative) with
        | ok kind =>
            cases kind with
            | regular => exact effect_map_cons _ _ _ inductionHypothesis
            | _ => exact passing
        | error fault =>
            cases fault with
            | unusablePath => rfl
            | _ => exact passing
      · rw [if_neg named, if_neg named]
        exact inductionHypothesis

theorem discover_effect (options : Options) (tree : FileTree) :
    Work.effect (discover options) tree = (discovered options tree, tree) := by
  unfold discover discovered
  rw [Work.effect_bind, Work.effect_lift, Program.effect_perform]
  dsimp only [FileTree.perform]
  cases tree.list options.inputDir options.recursive with
  | error fault => rfl
  | ok names =>
      dsimp only
      rw [Work.effect_bind, classify_effect]
      cases select options tree (sortNames names) with
      | error failure => rfl
      | ok templates =>
          dsimp only
          rw [Work.effect_bind, Work.effect_lift]
          rfl

/-- Two tasks search for templates in the same way. -/
structure SearchesLike (options other : Options) : Prop where
  inputDir : other.inputDir = options.inputDir
  recursive : other.recursive = options.recursive
  extensions : other.extensions = options.extensions
  partialsPathRegex : other.partialsPathRegex = options.partialsPathRegex
  partialRegex : other.partialRegex = options.partialRegex

theorem SearchesLike.ofRelative {other : Options} (like : SearchesLike options other)
    (inputDir : Path) (relative : String) :
    ofRelative other inputDir relative = Template.ofRelative options inputDir relative := by
  unfold Template.ofRelative
  rw [like.partialsPathRegex, like.partialRegex]

theorem SearchesLike.select {other : Options} (like : SearchesLike options other)
    (tree : FileTree) (names : List String) :
    select other tree names = Template.select options tree names := by
  induction names with
  | nil => rfl
  | cons relative rest inductionHypothesis =>
      rw [Template.select, Template.select, like.extensions, like.inputDir, like.ofRelative,
        inductionHypothesis]

/-- Tasks that search in the same way find the same templates. -/
theorem SearchesLike.discovered {other : Options} (like : SearchesLike options other)
    (tree : FileTree) : discovered other tree = Template.discovered options tree := by
  unfold Template.discovered
  rw [like.inputDir, like.recursive]
  cases tree.list options.inputDir options.recursive with
  | error fault => rfl
  | ok names => exact like.select tree (sortNames names)

/-- What becomes of a name in a listing. -/
inductive Choice where
  | selected
  | passed
  /-- The name asks for a path that names nothing. -/
  | refused
deriving DecidableEq

/-- What becomes of a relative path. -/
def choice (options : Options) (tree : FileTree) (relative : String) : Choice :=
  if isTemplateName (Path.ofString relative).name options.extensions then
    match tree.inspect (options.inputDir.join relative) with
    | .ok .regular => .selected
    | .error .unusablePath => .refused
    | _ => .passed
  else .passed

theorem select_cons (options : Options) (tree : FileTree) (relative : String)
    (rest : List String) :
    select options tree (relative :: rest) =
      match choice options tree relative with
      | .selected =>
          (select options tree rest).map (ofRelative options options.inputDir relative :: ·)
      | .passed => select options tree rest
      | .refused => .error (.mishap .wrongValue FileFault.unusablePath.reason) := by
  rw [select]
  unfold choice
  by_cases named : isTemplateName (Path.ofString relative).name options.extensions = true
  · rw [if_pos named, if_pos named]
    rcases tree.inspect (options.inputDir.join relative) with fault | kind
    · cases fault <;> rfl
    · cases kind <;> rfl
  · rw [if_neg named, if_neg named]

theorem regular_of_choice {relative : String}
    (selected : choice options tree relative = .selected) :
    tree.inspect (options.inputDir.join relative) = .ok .regular := by
  unfold choice at selected
  by_cases named : isTemplateName (Path.ofString relative).name options.extensions = true
  · rw [if_pos named] at selected
    split at selected
    · assumption
    · simp at selected
    · simp at selected
  · simp [named] at selected

/-- If templates are found, the first name is that of a template, or is passed over. -/
theorem select_cons_ok {relative : String} {rest : List String}
    (found : select options tree (relative :: rest) = .ok templates) :
    (choice options tree relative = .selected ∧ ∃ others, select options tree rest = .ok others ∧
        templates = ofRelative options options.inputDir relative :: others) ∨
      (choice options tree relative = .passed ∧ select options tree rest = .ok templates) := by
  rw [select_cons] at found
  cases chosen : choice options tree relative with
  | selected =>
      rw [chosen] at found
      cases others : select options tree rest with
      | error failure => simp [others, Except.map] at found
      | ok more =>
          simp only [others, Except.map, Except.ok.injEq] at found
          exact .inl ⟨rfl, more, rfl, found.symm⟩
  | passed =>
      rw [chosen] at found
      exact .inr ⟨rfl, found⟩
  | refused => simp [chosen] at found

/-- Each template that is found is a regular file, and is the one at its relative path. -/
theorem select_sound (found : select options tree names = .ok templates) :
    ∀ template ∈ templates, tree.inspect template.path = .ok .regular ∧
      template.relative ∈ names ∧
      template = ofRelative options options.inputDir template.relative := by
  induction names generalizing templates with
  | nil =>
      obtain rfl := Except.ok.inj found
      simp
  | cons relative rest inductionHypothesis =>
      have inRest {others : List Template} (foundRest : select options tree rest = .ok others)
          (template : Template) (member : template ∈ others) :
          tree.inspect template.path = .ok .regular ∧ template.relative ∈ relative :: rest ∧
            template = ofRelative options options.inputDir template.relative := by
        obtain ⟨regular, listed, same⟩ := inductionHypothesis foundRest template member
        exact ⟨regular, List.mem_cons_of_mem _ listed, same⟩
      rcases select_cons_ok found with ⟨selected, others, foundRest, rfl⟩ | ⟨_, foundRest⟩
      · intro template member
        rcases List.mem_cons.mp member with rfl | later
        · exact ⟨regular_of_choice selected, by simp [ofRelative], rfl⟩
        · exact inRest foundRest template later
      · exact inRest foundRest

/-- A template that is found is a regular file. -/
theorem discovered_regular (found : discovered options tree = .ok templates) :
    ∀ template ∈ templates, tree.inspect template.path = .ok .regular := by
  unfold discovered at found
  cases listed : tree.list options.inputDir options.recursive with
  | error fault => simp [listed] at found
  | ok names =>
      rw [listed] at found
      exact fun template member => (select_sound found template member).1

/-! ### Names that are left out -/

/-- No name stands before a smaller one. -/
def Sorted (names : List String) : Prop := names.Pairwise (· ≤ ·)

theorem insertName_perm (name : String) (names : List String) :
    (insertName name names).Perm (name :: names) := by
  induction names with
  | nil => exact List.Perm.refl _
  | cons first rest inductionHypothesis =>
      rw [insertName]
      split
      · exact (inductionHypothesis.cons first).trans (List.Perm.swap name first rest)
      · exact List.Perm.refl _

/-- No name is lost or added. -/
theorem sortNames_perm (names : List String) : (sortNames names).Perm names := by
  induction names with
  | nil => exact List.Perm.refl _
  | cons name rest inductionHypothesis =>
      exact (insertName_perm name (sortNames rest)).trans (inductionHypothesis.cons name)

theorem mem_insertName {name other : String} (member : other ∈ insertName name names) :
    other = name ∨ other ∈ names :=
  List.mem_cons.mp ((insertName_perm name names).mem_iff.mp member)

theorem mem_sortNames {name : String} (member : name ∈ sortNames names) : name ∈ names :=
  (sortNames_perm names).mem_iff.mp member

theorem Sorted.insertName {name : String} (sorted : Sorted names) :
    Sorted (insertName name names) := by
  induction names with
  | nil => exact List.pairwise_singleton _ _
  | cons first rest inductionHypothesis =>
      obtain ⟨least, sortedRest⟩ := List.pairwise_cons.mp sorted
      by_cases smaller : first < name
      · rw [Template.insertName, if_pos smaller]
        refine List.pairwise_cons.mpr ⟨?_, inductionHypothesis sortedRest⟩
        intro other member
        rcases mem_insertName member with rfl | inRest
        · exact String.not_lt.mp (String.lt_asymm smaller)
        · exact least other inRest
      · rw [Template.insertName, if_neg smaller]
        refine List.pairwise_cons.mpr ⟨?_, sorted⟩
        intro other member
        have below := String.not_lt.mp smaller
        rcases List.mem_cons.mp member with rfl | inRest
        · exact below
        · exact String.le_trans below (least other inRest)

theorem sortNames_sorted (names : List String) : Sorted (sortNames names) := by
  induction names with
  | nil => exact List.Pairwise.nil
  | cons name rest inductionHypothesis => exact inductionHypothesis.insertName

theorem sortNames_nodup (once : names.Nodup) : (sortNames names).Nodup :=
  (sortNames_perm names).nodup_iff.mpr once

/-- Names that are all different are in strict order. -/
theorem sortNames_increasing (once : names.Nodup) : (sortNames names).Pairwise (· < ·) := by
  refine ((sortNames_sorted names).and (sortNames_nodup once)).imp ?_
  rintro first second ⟨below, different⟩
  exact String.not_le.mp fun above => different (String.le_antisymm below above)

end TemplateBundle.Template
