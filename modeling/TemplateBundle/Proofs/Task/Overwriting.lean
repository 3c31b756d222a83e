import TemplateBundle.Proofs.Bundle.Overwriting
import TemplateBundle.Proofs.Task.Skipping
import TemplateBundle.Proofs.Template.BaseNames

/-!
Contract: that no template of a flat directory is lost to another one.

Owns: the templates that a run bundles as some of those that it found, and the law that a flat
search without functions for names lets no template overwrite another one of its kind.

A partial and a template that is none may share a base name, and with it a place.
-/

namespace TemplateBundle

namespace Attempt

theorem kept_sublist (attempts : List Attempt) :
    ((kept attempts).map Prod.fst).Sublist (attempts.map Prod.fst) := by
  induction attempts with
  | nil => exact .slnil
  | cons attempt rest inductionHypothesis =>
      rcases attempt with ⟨template, failure | _ | compiled⟩
      · exact inductionHypothesis.cons template
      · exact inductionHypothesis.cons template
      · exact inductionHypothesis.cons_cons template

end Attempt

namespace Task

variable {environment : Environment} {options : Options} {tree : FileTree} {report : Report}

/-- A run attempts the templates in their order, as far as it comes. -/
theorem replay_templates (environment : Environment) (state : TaskState) (templates : List Template)
    (tree : FileTree) :
    (replay environment state templates tree).map Prod.fst <+: templates := by
  induction templates generalizing state tree with
  | nil => exact List.nil_prefix
  | cons template rest inductionHypothesis =>
      rw [replay, List.map_cons]
      refine (List.prefix_cons_inj template).mpr ?_
      rcases Work.effect (addTemplate environment state template) tree with ⟨_ | next, changed⟩
      · exact List.nil_prefix
      · exact inductionHypothesis next changed

/-- In a flat search for one ending, without functions for names, no two templates of a kind have
one base name. So a run that completes assigns no two templates to one place, and registers no two
partials under one name or at one place, whatever namespaces they go into. -/
theorem run_overwrites_nothing (wellFormed : tree.WellFormed) {tail : String}
    (flat : options.SearchesFlat tail) (noName : options.processName = none)
    (noPartialName : options.processPartialName = none) :
    (∀ templates, (Work.effect (Template.discover options) tree).1 = .ok templates →
      templates.Pairwise fun first second =>
        first.isPartial = second.isPartial → first.baseName ≠ second.baseName) ∧
    (options.outputPath.IsNormal → ((run environment options).run tree).value = .ok report →
      ∃ bundled, composition environment options tree = .ok bundled ∧
        ((run environment options).run tree).tree.read options.outputPath =
          .ok (Statement.document options.separator bundled.statements).toUTF8 ∧
        Statement.OverwritesNothing bundled.statements) := by
  refine ⟨fun templates found => ?_, fun normal completes => ?_⟩
  · rw [Template.discover_effect] at found
    exact Template.discovered_baseNames wellFormed flat found
  · obtain ⟨state, base, location, executable, lines, templates, fragments, last, completion⟩ :=
      completion_of_run completes
    obtain ⟨bundled, composed, holds⟩ := completion.composition_ok
    refine ⟨bundled, composed, holds, ?_⟩
    unfold composition at composed
    rw [completion.opens] at composed
    dsimp only at composed
    rw [completion.discovers] at composed
    have openedWellFormed : (openedTree environment options tree).WellFormed := by
      rw [completion.opening.holds]
      exact (completion.opening.wellFormed wellFormed normal).2 _
    have distinct := Template.discovered_baseNames openedWellFormed flat completion.discovers
    have bundledTemplates := (Attempt.kept_sublist _).trans
      (replay_templates environment state templates (openedTree environment options tree)).sublist
    exact Composition.overwritesNothing composed noName noPartialName
      (List.pairwise_map.mp (distinct.sublist bundledTemplates))

/-- Names that differ in dots and underscores alone. -/
def dottedFiles : FileTree where
  entries := [(["t"], .directory), (["t", "p.hbs"], .file "P".toUTF8 false),
    (["t", "_p.hbs"], .file "Q".toUTF8 false), (["t", "__p.hbs"], .file "R".toUTF8 false),
    (["t", ".p.hbs"], .file "S".toUTF8 false), (["t", "p..hbs"], .file "T".toUTF8 false)]
  home := []

def dottedOptions : Options :=
  { threeOptions with extensions := [".hbs"], partialsUseNamespace := true }

/-- A partial shares its place with the template of its base name, and with no partial. -/
theorem run_overwrites_nothing_of_dotted_names :
    (∀ templates, (Work.effect (Template.discover dottedOptions) dottedFiles).1 = .ok templates →
      templates.Pairwise fun first second =>
        first.isPartial = second.isPartial → first.baseName ≠ second.baseName) ∧
    ∃ bundled, composition echo dottedOptions dottedFiles = .ok bundled ∧
      Statement.OverwritesNothing bundled.statements ∧
      bundled.statements.filterMap Statement.assignedPlace? =
        [".p", "p.", "p"].map (Statement.place ["JST"] ∘ Value.text) ∧
      bundled.statements.filterMap Statement.registeredPlace? =
        ["_p", "p"].map (Statement.place ["JST"] ∘ Value.text) := by
  have wellFormed : dottedFiles.WellFormed :=
    ⟨by decide +kernel, by decide +kernel, by decide +kernel, by decide +kernel, by decide +kernel⟩
  have flat : dottedOptions.SearchesFlat "hbs" := ⟨rfl, by decide, by decide, rfl⟩
  have completes : ((run echo dottedOptions).run dottedFiles).value =
      .ok ⟨⟨0, ["out.js"]⟩, 5, []⟩ := ok_of_toOption (by decide +kernel)
  have listed : (composition echo dottedOptions dottedFiles).toOption.map Composition.statements =
      some [.declare [["JST"]], .assign ["JST"] (.text ".p") "Handlebars.template(S)",
        .registerIn "Handlebars" (.text "_p") ["JST"] "Handlebars.template(R)",
        .registerIn "Handlebars" (.text "p") ["JST"] "Handlebars.template(Q)",
        .assign ["JST"] (.text "p.") "Handlebars.template(T)",
        .assign ["JST"] (.text "p") "Handlebars.template(P)"] := by decide +kernel
  obtain ⟨apart, overwrites⟩ := run_overwrites_nothing wellFormed flat rfl rfl
  obtain ⟨bundled, composed, _, nothing⟩ := overwrites (by decide +kernel) completes
  rw [composed] at listed
  have statements := Option.some.inj listed
  refine ⟨apart, bundled, composed, nothing, ?_, ?_⟩
  · rw [statements]
    rfl
  · rw [statements]
    rfl

end Task

end TemplateBundle
