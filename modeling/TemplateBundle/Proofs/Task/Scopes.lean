import TemplateBundle.Proofs.Bundle.Scopes
import TemplateBundle.Proofs.FileTree.Likeness
import TemplateBundle.Proofs.Task.Output

/-!
Contract: one task, with its output wrapped as a whole or fragment by fragment.

Owns: that the two runs open their outputs alike, find the same templates and make the same
attempts at them, and that they come to the same value and carry the same bundle.

Does not own: the relation between the two bundles (`Proofs.Bundle.Scopes`).
-/

namespace TemplateBundle

namespace Template

variable {options : Options} {first second : FileTree}

theorem select_alike (alike : FileTree.Alike first second) (options : Options)
    (names : List String) : select options second names = select options first names := by
  induction names with
  | nil => rfl
  | cons relative rest inductionHypothesis =>
      rw [select, select, FileTree.inspect_alike alike, inductionHypothesis]

theorem discovered_scoped (scope : WrapScope) (options : Options) (tree : FileTree) :
    discovered (options.scoped scope) tree = discovered options tree := by
  have like : SearchesLike options (options.scoped scope) := ⟨rfl, rfl, rfl, rfl, rfl⟩
  exact like.discovered tree

/-- What the output file holds makes no difference to what is found. -/
theorem discovered_holding {base : FileTree} {path : Path} {location : Location}
    {executable : Bool} (writes : base.WritesTo path location executable) (options : Options)
    (text other : String) :
    discovered options (base.holding location executable other) =
      discovered options (base.holding location executable text) := by
  unfold discovered
  rw [writes.list_holding text other]
  cases (base.holding location executable text).list options.inputDir options.recursive with
  | error fault => rfl
  | ok names => exact select_alike (writes.alike text other) options (sortNames names)

end Template

namespace Task

open OutputStream (after)

variable {environment : Environment} {options : Options} {tree : FileTree}

theorem attempt_scoped (notComputed : ∀ function, options.amd ≠ .computed function)
    (scope : WrapScope) (environment : Environment) (tree : FileTree) (template : Template) :
    attempt environment (options.scoped scope) tree template =
      attempt environment options tree template := by
  have wants (some : WrapScope) : wantsTree (options.scoped some) = false := by
    unfold wantsTree Options.scoped
    dsimp only
    cases rule : options.amd with
    | computed function => exact absurd rule (notComputed function)
    | _ => cases some <;> rfl
  have same : wantsTree (options.scoped scope) = wantsTree options := by
    rw [wants,
      show wantsTree options = wantsTree (options.scoped options.wrapScope) from rfl, wants]
  unfold attempt
  rw [same]
  rfl

/-- An output that cannot be opened is refused for the same reason in both scopes; one that can
be opened holds the preamble of a whole, or nothing. -/
theorem openOutput_scoped (notComputed : ∀ function, options.amd ≠ .computed function)
    (splits : options.NamespaceSplits) (environment : Environment) (tree : FileTree) :
    (∃ failure, ∀ scope, ∃ left,
      Work.effect (openOutput environment (options.scoped scope)) tree = (.error failure, left)) ∨
    ∃ whole parts opened started base location executable lines,
      Opening environment (options.scoped .output) tree whole opened base location executable
        lines ∧
      Opening environment (options.scoped .fragment) tree parts started base location executable
        [] ∧
      Bundle.Twin options whole.bundle parts.bundle lines [] := by
  obtain ⟨lines, whole, begins, beginsParts, twin⟩ :=
    Bundle.preamble_twin notComputed splits environment
  have opening (scope : WrapScope) := openOutput_effect environment (options.scoped scope) tree
  match directory : Work.effect (ensureDirectory options.outputPath.parent) tree with
  | (.error failure, left) =>
      refine .inl ⟨failure, fun scope => ⟨left, ?_⟩⟩
      rw [opening scope, show (options.scoped scope).outputPath = options.outputPath from rfl,
        directory]
  | (.ok (), base) =>
      rcases base.truncate_any options.outputPath with
        ⟨location, executable, writes, truncates⟩ | ⟨fault, refuses⟩
      · have opens (scope : WrapScope) {lines : List Statement} {bundle : Bundle}
            (preamble : Assembling.effect (Bundle.preamble environment)
              (Bundle.start (options.scoped scope)) = (.ok lines, bundle)) :
            Opening environment (options.scoped scope) tree
              ⟨bundle, after options.outputPath options.separator
                [Statement.render options.separator lines]⟩
              (base.holding location executable (Statement.render options.separator lines)) base
              location executable lines :=
          { directory
            preamble
            writes
            truncates := truncates _
            stream := rfl
            holds := by rw [OutputStream.joined_singleton]; rfl }
        exact .inr ⟨_, _, _, _, base, location, executable, lines, opens .output begins,
          opens .fragment beginsParts, twin⟩
      · refine .inl ⟨Failure.ofFile (.write options.outputPath) fault, fun scope => ⟨base, ?_⟩⟩
        rw [opening scope, show (options.scoped scope).outputPath = options.outputPath from rfl,
          directory]
        dsimp only
        cases scope with
        | output =>
            rw [begins]
            dsimp only
            rw [refuses]
        | fragment =>
            rw [beginsParts]
            dsimp only
            rw [refuses]

/-- The same templates are found in both scopes, or none can be found for the same reason. -/
theorem discovered_twice {whole parts : TaskState} {opened started base : FileTree}
    {location : Location} {executable : Bool} {lines : List Statement}
    (opening : Opening environment (options.scoped .output) tree whole opened base location
      executable lines)
    (starting : Opening environment (options.scoped .fragment) tree parts started base location
      executable []) :
    Template.discovered (options.scoped .fragment) started =
      Template.discovered (options.scoped .output) opened := by
  rw [Template.discovered_scoped, Template.discovered_scoped, starting.holds, opening.holds]
  exact Template.discovered_holding opening.writes options _ _

/-- The attempts of a run are the same in both scopes, if the output file is none of the
templates. -/
theorem replay_scoped (notComputed : ∀ function, options.amd ≠ .computed function)
    {whole parts : TaskState} {opened started base : FileTree} {location : Location}
    {executable : Bool} {lines : List Statement} {templates : List Template}
    (opening : Opening environment (options.scoped .output) tree whole opened base location
      executable lines)
    (starting : Opening environment (options.scoped .fragment) tree parts started base location
      executable [])
    (discovers : Template.discovered (options.scoped .output) opened = .ok templates)
    (apart : ∀ template ∈ templates,
      opened.sameFile template.path options.outputPath = false) :
    Bundle.progress environment whole.bundle (replay environment whole templates opened) =
      Bundle.progress environment whole.bundle (attempts environment options opened templates) ∧
    Bundle.progress environment parts.bundle (replay environment parts templates started) =
      Bundle.progress environment parts.bundle (attempts environment options opened templates) := by
  have sameAttempts (scope : WrapScope) (tree : FileTree) :
      attempts environment (options.scoped scope) tree templates =
        attempts environment options tree templates :=
    List.map_congr_left fun template _ =>
      congrArg _ (attempt_scoped notComputed scope environment tree template)
  -- A template that is not the output file stands somewhere else, whatever the file holds.
  have elsewhere : ∀ template ∈ templates, ∃ place node, place ≠ location ∧
      opened.findNode template.path = .ok (place, node) ∧
      started.findNode template.path = .ok (place, node) := by
    intro template member
    obtain ⟨place, content, flag, leads⟩ := FileTree.findNode_of_regular
      (Template.discovered_regular discovers template member)
    have different := (opening.sameFile_eq_false leads).mp (apart template member)
    refine ⟨place, _, different, leads, ?_⟩
    rw [opening.holds] at leads
    rw [starting.holds]
    exact opening.writes.findNode_other _ different leads
  have apartToo : ∀ template ∈ templates,
      started.sameFile template.path options.outputPath = false := by
    intro template member
    obtain ⟨place, node, different, _, leads⟩ := elsewhere template member
    exact (starting.sameFile_eq_false leads).mpr different
  constructor
  · rw [opening.progress_replay discovers apart, sameAttempts]
  · rw [starting.progress_replay ((discovered_twice opening starting).trans discovers) apartToo,
      sameAttempts]
    congr 1
    refine List.map_congr_left fun template member => congrArg _ ?_
    obtain ⟨place, node, different, leads, _⟩ := elsewhere template member
    rw [opening.holds] at leads
    rw [starting.holds, opening.holds]
    exact attempt_holding opening.writes different leads _

/-- Two runs whose outputs are opened fail for the same reason, or both complete with bundles that
carry the same. -/
theorem run_scoped (notComputed : ∀ function, options.amd ≠ .computed function)
    (available : environment.compiler.available = .ok ())
    {whole parts : TaskState} {opened started base : FileTree} {location : Location}
    {executable : Bool} {lines : List Statement}
    (opening : Opening environment (options.scoped .output) tree whole opened base location
      executable lines)
    (starting : Opening environment (options.scoped .fragment) tree parts started base location
      executable [])
    (twin : Bundle.Twin options whole.bundle parts.bundle lines [])
    (apart : ∀ templates, Template.discovered (options.scoped .output) opened = .ok templates →
      ∀ template ∈ templates, opened.sameFile template.path options.outputPath = false) :
    let outcome (scope : WrapScope) := (run environment (options.scoped scope)).run tree
    (∃ failure, ∀ scope, (outcome scope).value = .error failure) ∨
    ∃ templates fragments pieces last final,
      ((outcome .output).value = .ok last.report ∧
        Completion environment (options.scoped .output) tree last.report (outcome .output).tree
          whole base location executable lines templates fragments last) ∧
      ((outcome .fragment).value = .ok final.report ∧
        Completion environment (options.scoped .fragment) tree final.report
          (outcome .fragment).tree parts base location executable [] templates pieces final) ∧
      Bundle.Twin options last final (lines ++ fragments.flatMap Fragment.statements)
        ([] ++ pieces.flatMap Fragment.statements) := by
  intro outcome
  have wholeValue := opening.run_value available
  have partsValue := starting.run_value available
  have discoversToo := discovered_twice opening starting
  have fail {failure : Failure} (fails : (outcome .output).value = .error failure)
      (failsToo : (outcome .fragment).value = .error failure) :
      ∃ failure, ∀ scope, (outcome scope).value = .error failure := by
    refine ⟨failure, fun scope => ?_⟩
    cases scope
    · exact fails
    · exact failsToo
  cases discovers : Template.discovered (options.scoped .output) opened with
  | error failure =>
      rw [discovers] at wholeValue discoversToo
      rw [discoversToo] at partsValue
      exact .inl (fail wholeValue partsValue)
  | ok templates =>
      obtain ⟨replays, replaysToo⟩ :=
        replay_scoped notComputed opening starting discovers (apart templates discovers)
      rw [discovers] at wholeValue discoversToo
      rw [discoversToo] at partsValue
      dsimp only at wholeValue partsValue
      rcases twin.progress notComputed environment
          (attempts environment options opened templates) with
        ⟨failure, fails, failsToo⟩ | ⟨fragments, pieces, last, final, goes, goesToo, twins⟩
      · rw [replays, fails] at wholeValue
        rw [replaysToo, failsToo] at partsValue
        exact .inl (fail wholeValue partsValue)
      · exact .inr ⟨templates, fragments, pieces, last, final,
          completion_of_progress available opening discovers (replays.trans goes),
          completion_of_progress available starting discoversToo (replaysToo.trans goesToo),
          twins⟩

/-- What the files of two runs carry whose bundles are twins. -/
theorem carries_of_twin {report other : Report} {left after base : FileTree}
    {whole parts : TaskState} {location : Location} {executable : Bool}
    {lines : List Statement} {templates : List Template} {fragments pieces : List Fragment}
    {last final : Bundle}
    (completion : Completion environment (options.scoped .output) tree report left whole base
      location executable lines templates fragments last)
    (completionToo : Completion environment (options.scoped .fragment) tree other after parts base
      location executable [] templates pieces final)
    (twin : Bundle.Twin options last final (lines ++ fragments.flatMap Fragment.statements)
      ([] ++ pieces.flatMap Fragment.statements)) :
    ∃ whole parts,
      composition environment (options.scoped .output) tree = .ok whole ∧
      composition environment (options.scoped .fragment) tree = .ok parts ∧
      left.read options.outputPath =
        .ok (Statement.document options.separator whole.statements).toUTF8 ∧
      after.read options.outputPath =
        .ok (Statement.document options.separator parts.statements).toUTF8 ∧
      Statement.contributions whole.statements = Statement.contributions parts.statements ∧
      (Statement.targets whole.statements ≠ [] →
        Statement.declared whole.statements = Statement.declared parts.statements) := by
  obtain ⟨whole, composes, wholeLines, wholeFragments, holds⟩ := completion.composed
  obtain ⟨parts, composesToo, partsLines, partsFragments, holdsToo⟩ := completionToo.composed
  have ends := twin.wrap _ _ (Bundle.ending_isWrapper whole.bundle)
    (Bundle.ending_isWrapper parts.bundle)
  rw [← wholeLines, ← wholeFragments, ← partsLines, ← partsFragments] at ends
  refine ⟨whole, parts, composes, composesToo, holds, holdsToo, ends.contributions, fun used => ?_⟩
  rcases ends.declarations with ⟨_, sameDeclared⟩ | ⟨target, ahead⟩
  · exact sameDeclared
  · have unused : Statement.targets parts.statements = [] := ahead.unused
    have same : Statement.contributions whole.statements =
        Statement.contributions parts.statements := ends.contributions
    rw [← Statement.targets_contributions, same, Statement.targets_contributions] at used
    exact absurd unused used

/-- A task whose AMD dependency is not computed, and whose output file is none of its templates,
comes to the same value whether its output is wrapped as a whole or fragment by fragment. If it
completes, both files register and assign the same templates in the same order, and both declare
the same namespaces in the same order, unless no template is assigned into any. -/
theorem run_scopes_agree {raw : Entries} (reads : Options.ofEntries raw = .ok options)
    (notComputed : ∀ function, options.amd ≠ .computed function)
    (apart : ∀ templates,
      (Work.effect (Template.discover (options.scoped .output))
        (openedTree environment (options.scoped .output) tree)).1 = .ok templates →
      ∀ template ∈ templates, (openedTree environment (options.scoped .output) tree).sameFile
        template.path options.outputPath = false) :
    let outcome (scope : WrapScope) := (run environment (options.scoped scope)).run tree
    (outcome .output).value = (outcome .fragment).value ∧
      ∀ report, (outcome .output).value = .ok report → ∃ whole parts,
        composition environment (options.scoped .output) tree = .ok whole ∧
        composition environment (options.scoped .fragment) tree = .ok parts ∧
        (outcome .output).tree.read options.outputPath =
          .ok (Statement.document options.separator whole.statements).toUTF8 ∧
        (outcome .fragment).tree.read options.outputPath =
          .ok (Statement.document options.separator parts.statements).toUTF8 ∧
        Statement.contributions whole.statements = Statement.contributions parts.statements ∧
        (Statement.targets whole.statements ≠ [] →
          Statement.declared whole.statements = Statement.declared parts.statements) := by
  intro outcome
  -- A run that fails has no report.
  have failing (failure : Failure) {claim : Report → Prop}
      (fails : ∀ scope, (outcome scope).value = .error failure) :
      (outcome .output).value = (outcome .fragment).value ∧
        ∀ report, (outcome .output).value = .ok report → claim report := by
    refine ⟨(fails .output).trans (fails .fragment).symm, fun report completes => ?_⟩
    rw [fails .output] at completes
    simp at completes
  cases available : environment.compiler.available with
  | error failure => exact failing failure fun scope => run_of_unavailable available _ tree
  | ok _ =>
      rcases openOutput_scoped notComputed (Options.ofEntries_splits reads) environment tree with
        ⟨failure, fails⟩ | ⟨whole, parts, opened, started, base, location, executable, lines,
          opening, starting, twin⟩
      · refine failing failure fun scope => ?_
        obtain ⟨left, unopened⟩ := fails scope
        exact run_of_unopened available unopened
      · have sameTree : openedTree environment (options.scoped .output) tree = opened := by
          rw [openedTree, opening.opens]
        rw [Template.discover_effect, sameTree] at apart
        rcases run_scoped notComputed available opening starting twin apart with
          ⟨failure, fails⟩ | ⟨templates, fragments, pieces, last, final,
            ⟨completes, completion⟩, ⟨completesToo, completionToo⟩, twins⟩
        · exact failing failure fails
        · refine ⟨?_, fun _ _ => carries_of_twin completion completionToo twins⟩
          exact completes.trans ((congrArg Except.ok twins.report).trans completesToo.symm)

/-- The options of a task, as they are read. -/
def readOptions : Options :=
  { inputDir := ⟨0, ["t"]⟩, outputFile := "out.js", given := [.inputDir, .outputFile] }

theorem readOptions_reads : Options.ofEntries [(.text "inputDir", .text "t"),
    (.text "outputFile", .text "out.js")] = .ok readOptions := rfl

theorem run_scopes_agree_on_three_templates :
    ∃ whole parts,
      composition echo (readOptions.scoped .output) threeTemplates = .ok whole ∧
      composition echo (readOptions.scoped .fragment) threeTemplates = .ok parts ∧
      Statement.contributions whole.statements = Statement.contributions parts.statements ∧
      Statement.declared whole.statements = Statement.declared parts.statements := by
  have completes : ((run echo (readOptions.scoped .output)).run threeTemplates).value =
      .ok ⟨⟨0, ["out.js"]⟩, 2, ["a.hbs"]⟩ := ok_of_toOption (by decide +kernel)
  have discovers : (Work.effect (Template.discover (readOptions.scoped .output))
      (openedTree echo (readOptions.scoped .output) threeTemplates)).1 = .ok
        [⟨⟨0, ["t", "_p.hbs"]⟩, "_p.hbs", "p", true⟩, ⟨⟨0, ["t", "a.hbs"]⟩, "a.hbs", "a", false⟩,
          ⟨⟨0, ["t", "b.hbs"]⟩, "b.hbs", "b", false⟩] := ok_of_toOption (by decide +kernel)
  have listed : (composition echo (readOptions.scoped .output) threeTemplates).toOption.map
      Composition.statements = some [.declare [["JST"]], .register "Handlebars" (.text "p")
        "Handlebars.template(P)", .assign ["JST"] (.text "b") "Handlebars.template(B)"] := by
    decide +kernel
  obtain ⟨whole, parts, composes, composesToo, _, _, carries, declares⟩ :=
    (run_scopes_agree readOptions_reads (by simp [readOptions])
      (by
        intro templates found
        rw [discovers] at found
        obtain rfl := Except.ok.inj found
        decide +kernel)).2 _ completes
  refine ⟨whole, parts, composes, composesToo, carries, declares ?_⟩
  rw [composes] at listed
  rw [Option.some.inj listed]
  decide

/-- A task whose output file is one of its templates: the template holds what is written before
it, and this is not the same in both scopes. -/
theorem run_scopes_differ_on_own_output :
    let options : Options :=
      { inputDir := ⟨0, ["t"]⟩, outputDir := ⟨0, ["t"]⟩, outputFile := "o.hbs" }
    let tree : FileTree := ⟨[(["t"], .directory)], []⟩
    ((run echo (options.scoped .output)).run tree).value = .ok ⟨⟨0, ["t", "o.hbs"]⟩, 1, []⟩ ∧
      ((run echo (options.scoped .fragment)).run tree).value =
        .ok ⟨⟨0, ["t", "o.hbs"]⟩, 1, []⟩ ∧
      (composition echo (options.scoped .output) tree).toOption.map
          (Statement.contributions ∘ Composition.statements) =
        some [.assign ["JST"] (.text "o")
          "Handlebars.template(this[\"JST\"] = this[\"JST\"] || \x7b\x7d;)"] ∧
      (composition echo (options.scoped .fragment) tree).toOption.map
          (Statement.contributions ∘ Composition.statements) =
        some [.assign ["JST"] (.text "o") "Handlebars.template()"] :=
  ⟨ok_of_toOption (by decide +kernel), ok_of_toOption (by decide +kernel), by decide +kernel,
    by decide +kernel⟩

end Task

end TemplateBundle
