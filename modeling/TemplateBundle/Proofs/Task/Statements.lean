import TemplateBundle.Proofs.Bundle.Declarations
import TemplateBundle.Proofs.Bundle.Nesting
import TemplateBundle.Proofs.Bundle.Returns
import TemplateBundle.Proofs.Task.Output

/-!
Contract: what holds of the statements that a completed run writes.

Owns: the laws of a bundle's statements carried over to the file of a run.

Does not own: the laws themselves (`Proofs.Bundle`).
-/

namespace TemplateBundle.Task

variable {environment : Environment} {options : Options} {tree : FileTree} {report : Report}

/-- A run that completes writes statements in which every namespace is declared at most once,
after its parent, before each assignment into it or below it, and only where it is needed. It
does not matter which templates are compiled, nor whether the output file is one of them. -/
theorem run_declares_namespaces_before_use
    (completes : ((run environment options).run tree).value = .ok report) :
    ∃ bundled, composition environment options tree = .ok bundled ∧
      ((run environment options).run tree).tree.read options.outputPath =
        .ok (Statement.document options.separator bundled.statements).toUTF8 ∧
      Statement.WellDeclared options.fixedNamespace bundled.statements := by
  obtain ⟨state, base, location, executable, lines, templates, fragments, last, completion⟩ :=
    completion_of_run completes
  obtain ⟨bundled, composed, holds⟩ := completion.composition_ok
  refine ⟨bundled, composed, holds, ?_⟩
  unfold composition at composed
  rw [completion.opens] at composed
  dsimp only at composed
  rw [completion.discovers] at composed
  exact Composition.wellDeclared composed

theorem run_declares_namespaces_of_three_templates :
    ∃ bundled, composition echo threeOptions threeTemplates = .ok bundled ∧
      Statement.WellDeclared [["JST"]] bundled.statements := by
  have completes : ((run echo threeOptions).run threeTemplates).value =
      .ok ⟨⟨0, ["out.js"]⟩, 2, ["a.hbs"]⟩ := ok_of_toOption (by decide +kernel)
  obtain ⟨bundled, composed, _, declares⟩ := run_declares_namespaces_before_use completes
  have fixed : threeOptions.fixedNamespace = [["JST"]] := by decide +kernel
  rw [fixed] at declares
  exact ⟨bundled, composed, declares⟩

/-- The file of a completed run is the document of a bundle, composed of some compiled templates
with a fragment for each template that the report counts. -/
theorem composed_of_run (completes : ((run environment options).run tree).value = .ok report) :
    ∃ bundled templates, composition environment options tree = .ok bundled ∧
      ((run environment options).run tree).tree.read options.outputPath =
        .ok (Statement.document options.separator bundled.statements).toUTF8 ∧
      Bundle.compose environment options templates = .ok bundled ∧
      bundled.fragments.length = report.compiled := by
  obtain ⟨state, base, location, executable, lines, templates, fragments, last, completion⟩ :=
    completion_of_run completes
  obtain ⟨bundled, composed, holds⟩ := completion.composition_ok
  obtain ⟨same, composedSame, _, _, _, reported⟩ := completion.document completion.progress
  obtain rfl : bundled = same := by
    unfold composition at composed
    rw [completion.opens] at composed
    dsimp only at composed
    rw [completion.discovers] at composed
    exact Except.ok.inj (composed.symm.trans composedSame)
  obtain ⟨begun, _, assembled⟩ := Composition.of_compose composedSame
  refine ⟨bundled, _, composed, holds, composedSame, ?_⟩
  rw [(Bundle.assembleAll_statements assembled).1, reported]

/-- A run that completes writes statements whose wrappers nest: each is closed by its own kind,
CommonJS stands outside of AMD, partials, templates, declarations and the node shim stand inside
of just the wrappers that the options ask for, and nothing is returned outside of all wrappers.
Each wrapper that is asked for stands once in the output, even if there is no template, or once
around each compiled template. -/
theorem run_nests_wrappers
    (completes : ((run environment options).run tree).value = .ok report) :
    ∃ bundled, composition environment options tree = .ok bundled ∧
      ((run environment options).run tree).tree.read options.outputPath =
        .ok (Statement.document options.separator bundled.statements).toUTF8 ∧
      Statement.WellNested options bundled.statements ∧
      ∀ wrapper, let times := if wrapper ∈ options.wrappers then
          options.wrapperCount report.compiled else 0
        (bundled.statements.filterMap Statement.opens?).count wrapper = times ∧
          (bundled.statements.filterMap Statement.closes?).count wrapper = times := by
  obtain ⟨bundled, templates, found, holds, composed, sameLength⟩ := composed_of_run completes
  refine ⟨bundled, found, holds, Composition.wellNested composed, fun wrapper => ?_⟩
  rw [← sameLength]
  exact Composition.count_wrappers composed wrapper

/-- Both wrappers and the node shim, around each of two fragments. -/
def wrappedOptions : Options :=
  { threeOptions with commonjs := true, amd := .standard, node := true, wrapScope := .fragment }

theorem run_nests_wrappers_of_three_templates :
    ∃ bundled, composition echo wrappedOptions threeTemplates = .ok bundled ∧
      Statement.WellNested wrappedOptions bundled.statements ∧
      wrappedOptions.wrappers = [.amd, .commonjs] ∧
      (bundled.statements.filterMap Statement.opens?).count .amd = 2 ∧
      (bundled.statements.filterMap Statement.closes?).count .commonjs = 2 := by
  have completes : ((run echo wrappedOptions).run threeTemplates).value =
      .ok ⟨⟨0, ["out.js"]⟩, 2, ["a.hbs"]⟩ := ok_of_toOption (by decide +kernel)
  obtain ⟨bundled, found, _, nested, counts⟩ := run_nests_wrappers completes
  exact ⟨bundled, found, nested, rfl, (counts .amd).1, (counts .commonjs).2⟩

/-- Where a run that completes returns a namespace for all that an AMD module declares, it returns
the root of the namespaces that are fixed or assigned into so far, if they have one root and the
root is not cut. Whatever is assigned so far can be reached from there. -/
theorem run_returns_shared_root
    (completes : ((run environment options).run tree).value = .ok report) :
    ∃ bundled, composition environment options tree = .ok bundled ∧
      ((run environment options).run tree).tree.read options.outputPath =
        .ok (Statement.document options.separator bundled.statements).toUTF8 ∧
      ∀ before text root, before ++ [.returnShared text] <+: bundled.statements →
        (∀ target ∈ options.fixedNamespace ++ Statement.targets before,
          target.head? = some root) → ¬ Namespace.IsCut root →
        text = Namespace.bracketPath [root] ∧
          ∀ target ∈ Statement.targets before, [root] <+: target := by
  obtain ⟨bundled, templates, found, holds, composed, _⟩ := composed_of_run completes
  exact ⟨bundled, found, holds, fun before text root isPrefix oneRoot whole =>
    Composition.returns_root composed isPrefix oneRoot whole⟩

/-- A namespace for each file: the first letter of its name. -/
def byLetter : Environment :=
  { echo with
    call := fun _ arguments =>
      match arguments with
      | [.text "t/a.hbs"] => .ok (.text "a")
      | _ => .ok (.text "b") }

def twoTemplates : FileTree where
  entries := [(["t"], .directory), (["t", "a.hbs"], .file "A".toUTF8 false),
    (["t", "b.hbs"], .file "B".toUTF8 false)]
  home := []

def amdOptions : Options := { threeOptions with amd := .standard }

theorem run_returns_shared_root_of_two_templates :
    ∃ bundled before, composition echo amdOptions twoTemplates = .ok bundled ∧
      before ++ [.returnShared "this[\"JST\"]"] <+: bundled.statements ∧
      Statement.targets before = [["JST"], ["JST"]] ∧
      ∀ target ∈ Statement.targets before, ["JST"] <+: target := by
  have completes : ((run echo amdOptions).run twoTemplates).value =
      .ok ⟨⟨0, ["out.js"]⟩, 2, []⟩ := ok_of_toOption (by decide +kernel)
  have listed : (composition echo amdOptions twoTemplates).toOption.map Composition.statements =
      some [.amdOpen ["handlebars"] "Handlebars", .declare [["JST"]],
        .assign ["JST"] (.text "a") "Handlebars.template(A)",
        .assign ["JST"] (.text "b") "Handlebars.template(B)",
        .returnShared "this[\"JST\"]", .amdClose] := by decide +kernel
  obtain ⟨bundled, found, _, returns⟩ := run_returns_shared_root completes
  rw [found] at listed
  have statements := Option.some.inj listed
  have isPrefix : [.amdOpen ["handlebars"] "Handlebars", .declare [["JST"]],
      .assign ["JST"] (.text "a") "Handlebars.template(A)",
      .assign ["JST"] (.text "b") "Handlebars.template(B)"] ++
        [.returnShared "this[\"JST\"]"] <+: bundled.statements :=
    ⟨[.amdClose], statements.symm⟩
  exact ⟨bundled, _, found, isPrefix, by decide,
    (returns _ _ "JST" isPrefix (by decide +kernel) (by decide)).2⟩

/-- If each file has a root of its own, the first of them is returned, from where the templates of
the others cannot be reached. -/
theorem run_returns_foreign_root :
    let options : Options := { amdOptions with namespaceRule := .computed ⟨"hooks", "letter"⟩ }
    ((run byLetter options).run twoTemplates).value = .ok ⟨⟨0, ["out.js"]⟩, 2, []⟩ ∧
      ∃ bundled before, composition byLetter options twoTemplates = .ok bundled ∧
        before ++ [.returnShared "this[\"a\"]", .amdClose] <+: bundled.statements ∧
        ¬ ∃ segments, "this[\"a\"]" = Namespace.bracketPath segments ∧
          ∀ statement ∈ before, ∀ target, statement.target? = some target →
            segments <+: target := by
  intro options
  have completes : ((run byLetter options).run twoTemplates).value =
      .ok ⟨⟨0, ["out.js"]⟩, 2, []⟩ := ok_of_toOption (by decide +kernel)
  have listed : (composition byLetter options twoTemplates).toOption.map Composition.statements =
      some [.amdOpen ["handlebars"] "Handlebars",
        .declare [["a"]], .assign ["a"] (.text "a") "Handlebars.template(A)",
        .declare [["b"]], .assign ["b"] (.text "b") "Handlebars.template(B)",
        .returnShared "this[\"a\"]", .amdClose] := by decide +kernel
  refine ⟨completes, ?_⟩
  cases found : composition byLetter options twoTemplates with
  | error failure => simp [found, Except.toOption] at listed
  | ok bundled =>
      rw [found] at listed
      refine ⟨bundled, [.amdOpen ["handlebars"] "Handlebars",
        .declare [["a"]], .assign ["a"] (.text "a") "Handlebars.template(A)",
        .declare [["b"]], .assign ["b"] (.text "b") "Handlebars.template(B)"], rfl,
        ⟨[], (Option.some.inj listed).symm⟩, ?_⟩
      rintro ⟨segments, text, shared⟩
      have toFirst :=
        shared (.assign ["a"] (.text "a") "Handlebars.template(A)") (by simp) ["a"] rfl
      have toSecond :=
        shared (.assign ["b"] (.text "b") "Handlebars.template(B)") (by simp) ["b"] rfl
      -- Only the outermost object holds both namespaces.
      cases segments with
      | nil => exact absurd text (by decide)
      | cons first rest =>
          rw [List.cons_prefix_cons] at toFirst toSecond
          exact absurd (toFirst.1.symm.trans toSecond.1) (by decide)

end TemplateBundle.Task
