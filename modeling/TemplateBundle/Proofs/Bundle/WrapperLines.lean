import TemplateBundle.Proofs.Bundle.Reached
import TemplateBundle.Proofs.Bundle.Resolutions
import TemplateBundle.Proofs.Options.Acceptance
import TemplateBundle.Proofs.Text.Line

/-!
Contract: the lines that open and close wrappers, each as one line of a module.

Owns: which of these lines hold a line break, and in which of them a literal is left open, for all
options that are accepted and all bundles that a task comes to.

Names of runtimes and the literals of namespaces hold no line breaks. The literal of a dependency
holds those of the dependency. A namespace that is returned may lose the end of its literal where
its text is cut.
-/

namespace TemplateBundle

open Namespace (bracketPath)
open Text (HasLineBreak IsConfined IsSound LiteralsEnd)

theorem Namespace.isSound_bracketPath (target : List String) : IsSound (bracketPath target) := by
  have segment (segment : String) : IsSound (bracketSegment segment) :=
    .append (.append (by decide) (Text.isSound_doubleQuoted segment))
      (by decide)
  refine .append (by decide) (.join fun text member => ?_)
  obtain ⟨name, _, rfl⟩ := List.mem_map.mp member
  exact segment name

theorem Namespace.isSound_expression (target : List String) : IsSound (expression target) := by
  unfold expression
  split
  · decide
  · exact isSound_bracketPath target

theorem Reading.isSound_of_isRuntimeName {runtime : String}
    (isName : isRuntimeName runtime = true) : IsSound runtime := by
  refine .of_plain fun character member => ⟨?_, ?_⟩
  · rintro (rfl | rfl) <;> exact not_mem_of_isRuntimeName isName (by decide +kernel) member
  · rintro (rfl | rfl) <;> exact not_mem_of_isRuntimeName isName (by decide +kernel) member

namespace Statement

variable {runtime : String}

theorem hasLineBreak_dependencyList (dependencies : List String) :
    HasLineBreak (dependencyList dependencies).toList ↔
      ∃ dependency ∈ dependencies, HasLineBreak dependency.toList := by
  induction dependencies with
  | nil => simp [dependencyList]
  | cons first rest inductionHypothesis =>
      cases rest with
      | nil => simp [dependencyList, Text.hasLineBreak_singleQuoted]
      | cons second others =>
          have noBreak : ¬ HasLineBreak ", ".toList := by decide
          rw [dependencyList_cons_cons, String.toList_append, String.toList_append,
            Text.hasLineBreak_append, Text.hasLineBreak_append, inductionHypothesis,
            Text.hasLineBreak_singleQuoted, or_iff_left noBreak]
          simp

theorem isConfined_dependencyList (dependencies : List String) :
    IsConfined (dependencyList dependencies).toList := by
  induction dependencies with
  | nil => rfl
  | cons first rest inductionHypothesis =>
      cases rest with
      | nil =>
          have written : dependencyList [first] = Text.singleQuoted first := by
            simp [dependencyList]
          rw [written]
          exact Text.isConfined_singleQuoted first
      | cons second others =>
          rw [dependencyList_cons_cons, String.toList_append, String.toList_append]
          exact .append (.append (Text.isConfined_singleQuoted first) (by decide))
            inductionHypothesis

/-! ### Kinds of lines -/

section Runtime

variable (isName : Reading.isRuntimeName runtime = true)
include isName

theorem commonjsOpen_isSound : IsSound (commonjsOpen runtime).text :=
  .append (.append (by decide +kernel)
    (Reading.isSound_of_isRuntimeName isName)) (by decide)

theorem nodeRuntime_isSound : IsSound (nodeRuntime runtime).text :=
  have sound := Reading.isSound_of_isRuntimeName isName
  .append (.append (.append sound (by decide)) sound)
    (by decide +kernel)

/-- An opening is its list of dependencies between two sound texts. -/
theorem amdOpen_text (dependencies : List String) :
    ∃ front back, IsSound front ∧ IsSound back ∧
      (amdOpen dependencies runtime).text = front ++ dependencyList dependencies ++ back := by
  have soundFront : IsSound "define([" := by decide
  have soundBack : IsSound ("], function(" ++ runtime ++ ") \x7b") :=
    .append (.append (by decide +kernel)
      (Reading.isSound_of_isRuntimeName isName)) (by decide)
  have spelled : (amdOpen dependencies runtime).text =
      "define([" ++ dependencyList dependencies ++ "], function(" ++ runtime ++ ") \x7b" := rfl
  refine ⟨_, _, soundFront, soundBack, ?_⟩
  rw [spelled]
  simp only [String.append_assoc]

theorem amdOpen_hasLineBreak (dependencies : List String) :
    HasLineBreak (amdOpen dependencies runtime).text.toList ↔
      ∃ dependency ∈ dependencies, HasLineBreak dependency.toList := by
  obtain ⟨front, back, soundFront, soundBack, written⟩ := amdOpen_text isName dependencies
  rw [written, String.toList_append, String.toList_append, Text.hasLineBreak_append,
    Text.hasLineBreak_append, or_iff_left soundBack.unbroken, or_iff_right soundFront.unbroken,
    hasLineBreak_dependencyList]

theorem amdOpen_isConfined (dependencies : List String) :
    IsConfined (amdOpen dependencies runtime).text.toList := by
  obtain ⟨front, back, soundFront, soundBack, written⟩ := amdOpen_text isName dependencies
  rw [written, String.toList_append, String.toList_append]
  exact (soundFront.confined.append (isConfined_dependencyList dependencies)).append
    soundBack.confined

end Runtime

theorem nodeGlobal_isSound : IsSound nodeGlobal.text := by decide +kernel

theorem nodeExport_isSound (target : List String) : IsSound (nodeExport target).text :=
  .append (.append (by decide +kernel) (Namespace.isSound_expression target))
    (by decide)

theorem returnLast_isSound (target : List String) : IsSound (returnLast target).text :=
  .append (.append (by decide) (Namespace.isSound_expression target))
    (by decide)

theorem returnShared_isSound (target : List String) :
    IsSound (returnShared (bracketPath target)).text :=
  .append (.append (by decide) (Namespace.isSound_bracketPath target))
    (by decide)

/-- The quote that ends the literal of a root which is cut is missing. -/
theorem returnShared_cut {root : String} (cut : Namespace.IsCut root) :
    let line := returnShared (Namespace.Registry.outermost (bracketPath [root]))
    ¬ HasLineBreak line.text.toList ∧ ¬ LiteralsEnd line.text.toList := by
  obtain ⟨front, _, _, _, _, _, found⟩ := Namespace.Registry.outermost_cut cut
  -- The literal that is opened, up to the end of the line.
  let content := front.flatMap (Text.literalCharacter .all) ++ [']', ';']
  have written :
      (returnShared (Namespace.Registry.outermost (bracketPath [root]))).text.toList =
        "return this[".toList ++ '"' :: content := by
    change ("return " ++ Namespace.Registry.outermost (bracketPath [root]) ++ ";").toList = _
    rw [found]
    simp [content]
  have shielded : Text.Shielded '"' content :=
    (Text.shielded_literal front).append (.of_plain (by simp))
  have unbroken : ¬ HasLineBreak content := by
    rw [Text.hasLineBreak_append, not_or]
    exact ⟨Text.not_hasLineBreak_literal front, by decide⟩
  have begins : Text.scan .outside "return this[".toList = some .outside := by decide
  dsimp only
  rw [written]
  constructor
  · rw [Text.hasLineBreak_append, Text.hasLineBreak_cons, not_or, not_or]
    exact ⟨by decide, by decide, unbroken⟩
  · unfold LiteralsEnd
    rw [Text.scan_append, begins, Option.bind_some, Text.scan_opened (.inl rfl) shielded,
      if_neg unbroken]
    simp

theorem amdClose_isSound : IsSound amdClose.text := by decide

theorem commonjsClose_isSound : IsSound commonjsClose.text := by decide

end Statement

/-! ### The lines of a task -/

/-- Several paths are declared, and the first of them is a root that is cut where its text is
searched. -/
def Namespace.Registry.CutsRoot (registry : Registry) : Prop :=
  ∃ root second rest, registry.declared = bracketPath [root] :: second :: rest ∧ IsCut root

namespace Bundle

variable {environment : Environment} {options : Options} {bundle : Bundle} {line : Statement}
  {registry : Namespace.Registry} {target : List String} {catalogue : Catalogue} {value : Value}

theorem opening_sound (isName : Reading.isRuntimeName options.runtime = true)
    (notComputed : ∀ function, options.amd ≠ .computed function) (name ast compiled : Value) :
    ∃ lines, opening environment options name ast compiled = .ok lines ∧ ∀ line ∈ lines,
      IsSound line.text ∨
        line = .amdOpen (options.amd.fixedDependencies id) options.runtime := by
  refine ⟨_, opening_fixed notComputed environment name ast compiled, fun line member => ?_⟩
  simp only [List.mem_append, List.mem_ite_nil_right, List.mem_cons, List.not_mem_nil,
    or_false] at member
  obtain (⟨_, rfl⟩ | ⟨_, rfl⟩) | ⟨_, rfl | rfl⟩ := member
  · exact .inl (Statement.commonjsOpen_isSound isName)
  · exact .inr rfl
  · exact .inl Statement.nodeGlobal_isSound
  · exact .inl (Statement.nodeRuntime_isSound isName)

theorem closing_sound (member : line ∈ closing options registry target) :
    IsSound line.text ∨ line = .returnShared registry.globalNamespace := by
  obtain rfl | ⟨rfl, _⟩ | rfl | rfl | rfl := closing_cases member
  · exact .inl (Statement.nodeExport_isSound target)
  · exact .inr rfl
  · exact .inl Statement.amdClose_isSound
  · exact .inl (Statement.returnLast_isSound target)
  · exact .inl Statement.commonjsClose_isSound

/-- A root that is not cut is returned whole, if anything is declared. -/
theorem shared_sound (reached : Reached options bundle) (whole : ¬ bundle.registry.CutsRoot) :
    IsSound (Statement.returnShared bundle.registry.globalNamespace).text := by
  obtain ⟨reasons, statements, declares⟩ := reached.declaring
  cases all : bundle.registry.declared with
  | nil =>
      rw [Namespace.Registry.globalNamespace, all]
      decide
  | cons first rest =>
      obtain ⟨root, _, rfl, _⟩ := declares.first_root all
      have shared : bundle.registry.globalNamespace = bracketPath [root] := by
        cases rest with
        | nil => rw [Namespace.Registry.globalNamespace, all]
        | cons second others =>
            exact Namespace.Registry.globalNamespace_root all
              fun cut => whole ⟨root, second, others, all, cut⟩
      rw [shared]
      exact Statement.returnShared_isSound [root]

theorem shared_cut (cuts : registry.CutsRoot) :
    ¬ HasLineBreak (Statement.returnShared registry.globalNamespace).text.toList ∧
      ¬ LiteralsEnd (Statement.returnShared registry.globalNamespace).text.toList := by
  obtain ⟨root, second, others, all, cut⟩ := cuts
  have shared : registry.globalNamespace = Namespace.Registry.outermost (bracketPath [root]) := by
    rw [Namespace.Registry.globalNamespace, all]
  rw [shared]
  exact Statement.returnShared_cut cut

/-- The openings and closings of a bundle that a task with accepted options comes to, where no
function names the dependencies. A line break stands in the opening of an AMD module alone, and
there just if a dependency holds one; then its literal does not end on the line. The literals of
all other lines end, but for the returned namespace where several paths are declared below a root
that is cut. -/
theorem wrapperLines_broken_iff (accepted : Options.ofValue catalogue value = .ok options)
    (notComputed : ∀ function, options.amd ≠ .computed function)
    (reached : Reached options bundle) :
    (∀ environment name ast compiled, ∃ lines,
      opening environment bundle.options name ast compiled = .ok lines ∧ ∀ line ∈ lines,
        (HasLineBreak line.text.toList ↔
          line = .amdOpen (options.amd.fixedDependencies id) options.runtime ∧
            ∃ dependency ∈ options.amd.fixedDependencies id, HasLineBreak dependency.toList) ∧
        (LiteralsEnd line.text.toList ↔ ¬ HasLineBreak line.text.toList)) ∧
    ∀ target, ∀ line ∈ closing bundle.options bundle.registry target,
      ¬ HasLineBreak line.text.toList ∧
        (LiteralsEnd line.text.toList ↔ ¬ (bundle.registry.CutsRoot ∧
          line = .returnShared bundle.registry.globalNamespace)) := by
  obtain ⟨_, _, _, _, reads⟩ := Options.ofValue_ok accepted
  have isName := Options.ofEntries_runtimeName reads
  rw [reached.options_eq]
  constructor
  · intro environment name ast compiled
    obtain ⟨lines, opened, kinds⟩ := opening_sound isName notComputed name ast compiled
    refine ⟨lines, opened, fun line member => ⟨⟨fun breaks => ?_, ?_⟩, ?_⟩⟩
    · rcases kinds line member with sound | rfl
      · exact absurd breaks sound.unbroken
      · exact ⟨rfl, (Statement.amdOpen_hasLineBreak isName _).mp breaks⟩
    · rintro ⟨rfl, dependencies⟩
      exact (Statement.amdOpen_hasLineBreak isName _).mpr dependencies
    · rcases kinds line member with sound | rfl
      · exact sound.confined.literalsEnd_iff
      · exact (Statement.amdOpen_isConfined isName _).literalsEnd_iff
  · intro target line member
    by_cases cut : bundle.registry.CutsRoot ∧ line = .returnShared bundle.registry.globalNamespace
    · obtain ⟨cuts, rfl⟩ := cut
      have lost := shared_cut cuts
      exact ⟨lost.1, fun ends => absurd ends lost.2, fun whole => absurd ⟨cuts, rfl⟩ whole⟩
    · have sound : IsSound line.text := by
        rcases closing_sound member with sound | rfl
        · exact sound
        · exact shared_sound reached fun cuts => cut ⟨cuts, rfl⟩
      exact ⟨sound.unbroken, iff_of_true sound.literalsEnd cut⟩

/-- A task with every wrapper, whose namespace holds a line feed and whose dependencies hold what
is escaped. -/
def wrappedTask : Value :=
  .map [(.text "namespace", .text "App\nViews"), (.text "commonjs", .bool true),
    (.text "node", .bool true), (.text "amd", .list [.text "it's", .text "a\\b"])]

/-- The options of that task. -/
def wrappedOptions : Options :=
  { namespaceRule := .fixed "App\nViews", commonjs := true, node := true,
    amd := .listed ["it's", "a\\b"], given := [.namespaceRule, .amd, .commonjs, .node] }

/-- The bundle of that task behind its preamble. -/
def wrappedBundle : Bundle := (Assembling.effect (preamble byFile) (start wrappedOptions)).2

theorem wrapperLines_broken_iff_of_escaped_texts :
    Options.ofValue [] wrappedTask = .ok wrappedOptions ∧
      (∀ function, wrappedOptions.amd ≠ .computed function) ∧
      Reached wrappedOptions wrappedBundle ∧
      wrappedBundle.registry.declared = ["this[\"App\\nViews\"]"] ∧
      (∃ lines, opening byFile wrappedBundle.options (.text "a") .null .null = .ok lines ∧
        ∀ line ∈ lines, LiteralsEnd line.text.toList) ∧
      ∀ line ∈ closing wrappedBundle.options wrappedBundle.registry wrappedBundle.target,
        LiteralsEnd line.text.toList := by
  have accepted : Options.ofValue [] wrappedTask = .ok wrappedOptions := by rfl
  have notComputed : ∀ function, wrappedOptions.amd ≠ .computed function := by
    simp [wrappedOptions]
  have reached : Reached wrappedOptions wrappedBundle := .preamble byFile .start
  have declared : wrappedBundle.registry.declared = ["this[\"App\\nViews\"]"] := by
    decide +kernel
  obtain ⟨openings, closings⟩ := wrapperLines_broken_iff accepted notComputed reached
  refine ⟨accepted, notComputed, reached, declared, ?_, fun line member => ?_⟩
  · obtain ⟨lines, opened, sound⟩ := openings byFile (.text "a") .null .null
    refine ⟨lines, opened, fun line member => ?_⟩
    rw [(sound line member).2, (sound line member).1]
    have unbroken : ∀ dependency ∈ ["it's", "a\\b"], ¬ HasLineBreak dependency.toList := by decide
    rintro ⟨_, dependency, isOne, breaks⟩
    exact unbroken dependency isOne breaks
  · rw [(closings wrappedBundle.target line member).2]
    rintro ⟨⟨root, second, rest, several, _⟩, _⟩
    simp [declared] at several

/-- A task that depends on a name of two lines. -/
def twoLineTask : Value := .map [(.text "amd", .text "a\nb")]

/-- The task is accepted, and its module opens with a literal that does not end on its line. -/
theorem wrapperLines_broken_by_two_line_name :
    ∃ options line, Options.ofValue [] twoLineTask = .ok options ∧
      (∀ function, options.amd ≠ .computed function) ∧ Reached options (start options) ∧
      opening byFile (start options).options (.text "a") .null .null = .ok [line] ∧
      line.text = "define(['a\nb'], function(Handlebars) \x7b" ∧
      HasLineBreak line.text.toList ∧ ¬ LiteralsEnd line.text.toList := by
  have accepted : Options.ofValue [] twoLineTask =
      .ok { amd := .named "a\nb", given := [.amd] } := by rfl
  exact ⟨_, .amdOpen ["a\nb"] "Handlebars", accepted, by simp, .start, rfl, by rfl,
    by decide +kernel, by decide +kernel⟩

end Bundle

end TemplateBundle
