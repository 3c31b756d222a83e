import TemplateBundle.Proofs.Bundle.Progress

/-!
Contract: how the wrappers of a bundle stand in each other.

Owns: the wrappers that are open along a list of statements, the law of well nested statements
(every wrapper is closed by its own kind, CommonJS is outermost, and no statement stands outside
the wrappers it needs), and that every bundle is well nested.

`Nested` reads the statements from the left, with the wrappers open at the start and at the end,
so that the parts of a bundle can be put one after the other.
-/

namespace TemplateBundle

/-- A wrapper around statements. -/
inductive Wrapper where
  | commonjs
  | amd
deriving DecidableEq, Repr

/-- The wrappers that options ask for around AMD. -/
def Options.outerWrappers (options : Options) : List Wrapper :=
  if options.commonjs then [.commonjs] else []

/-- The wrappers that options ask for, the innermost one first. -/
def Options.wrappers (options : Options) : List Wrapper :=
  (if options.amd.isOn then [.amd] else []) ++ options.outerWrappers

namespace Statement

/-- The wrapper that a statement opens. -/
def opens? : Statement → Option Wrapper
  | .commonjsOpen _ => some .commonjs
  | .amdOpen _ _ => some .amd
  | _ => none

/-- The wrapper that a statement closes. -/
def closes? : Statement → Option Wrapper
  | .commonjsClose => some .commonjs
  | .amdClose => some .amd
  | _ => none

/-- The wrappers that are open after a statement, the innermost one first. CommonJS is opened
outside of everything, AMD once, and only the innermost wrapper can be closed. -/
def pass? (around : List Wrapper) (statement : Statement) : Option (List Wrapper) :=
  match statement.opens?, statement.closes? with
  | some .commonjs, _ => if around = [] then some [.commonjs] else none
  | some .amd, _ => if .amd ∈ around then none else some (.amd :: around)
  | none, some wrapper => if around.head? = some wrapper then some around.tail else none
  | none, none => some around

/-- The wrappers that are open after some statements. -/
def open? (statements : List Statement) : Option (List Wrapper) := statements.foldlM pass? []

/-- The statement belongs inside all wrappers: it is a partial, a template, a declaration or part
of the node shim. -/
def isInner : Statement → Bool
  | .declare _ => true
  | .nodeGlobal => true
  | .nodeRuntime _ => true
  | .nodeExport _ => true
  | statement => statement.isContribution

/-- Statements are nested as they should be: all wrappers are closed at the end, what belongs
inside stands inside of just the wrappers that the options ask for, and nothing is returned
outside of all wrappers. -/
structure WellNested (options : Options) (statements : List Statement) : Prop where
  closed : open? statements = some []
  inside : ∀ before statement, before ++ [statement] <+: statements → statement.isInner = true →
    open? before = some options.wrappers
  returns : ∀ before statement, before ++ [statement] <+: statements → statement.isReturn = true →
    ∃ wrapper around, open? before = some (wrapper :: around)

/-- The statement may stand inside of some wrappers. -/
def MayStand (options : Options) (around : List Wrapper) (statement : Statement) : Prop :=
  (statement.isInner = true → around = options.wrappers) ∧
    (statement.isReturn = true → around ≠ [])

/-- Every statement stands where it may, on the way from the wrappers that are open at the start
to those that are open at the end. -/
def Nested (options : Options) : List Wrapper → List Statement → List Wrapper → Prop
  | around, [], final => around = final
  | around, statement :: rest, final =>
      statement.MayStand options around ∧
        ∃ next, statement.pass? around = some next ∧ Nested options next rest final

/-- The wrappers that some statements open, and those that they close, in order. -/
def Wraps (opened closed : List Wrapper) (statements : List Statement) : Prop :=
  statements.filterMap opens? = opened ∧ statements.filterMap closes? = closed

variable {options : Options} {around middle final : List Wrapper} {first second : List Statement}
  {statements : List Statement}

theorem inner_of_isContribution {statement : Statement}
    (contributes : statement.isContribution = true) : statement.isInner = true := by
  cases statement <;> first | rfl | nomatch contributes

theorem pass?_of_isInner {statement : Statement} (inner : statement.isInner = true) :
    statement.pass? around = some around := by
  cases statement <;> first | rfl | nomatch inner

theorem Nested.append (before : Nested options around first middle)
    (after : Nested options middle second final) :
    Nested options around (first ++ second) final := by
  induction first generalizing around with
  | nil =>
      obtain rfl : around = middle := before
      exact after
  | cons statement rest inductionHypothesis =>
      obtain ⟨stands, next, passes, nested⟩ := before
      exact ⟨stands, next, passes, inductionHypothesis nested⟩

theorem Nested.foldlM_eq (nested : Nested options around statements final) :
    statements.foldlM pass? around = some final := by
  induction statements generalizing around with
  | nil =>
      obtain rfl : around = final := nested
      rfl
  | cons statement rest inductionHypothesis =>
      obtain ⟨_, next, passes, nested⟩ := nested
      rw [List.foldlM_cons, passes]
      exact inductionHypothesis nested

/-- Where a statement stands, read off the statements before it. -/
theorem Nested.stands (nested : Nested options around statements final) {before : List Statement}
    {statement : Statement} (isPrefix : before ++ [statement] <+: statements) :
    ∃ here, before.foldlM pass? around = some here ∧ statement.MayStand options here := by
  induction before generalizing around statements with
  | nil =>
      obtain ⟨rest, rfl⟩ := isPrefix
      exact ⟨around, rfl, nested.1⟩
  | cons earlier more inductionHypothesis =>
      obtain ⟨rest, rfl⟩ := isPrefix
      obtain ⟨_, next, passes, nested⟩ := nested
      obtain ⟨here, folds, stands⟩ := inductionHypothesis nested ⟨rest, rfl⟩
      refine ⟨here, ?_, stands⟩
      rw [List.foldlM_cons, passes]
      exact folds

theorem Nested.wellNested (nested : Nested options [] statements []) :
    WellNested options statements where
  closed := nested.foldlM_eq
  inside := by
    intro before statement isPrefix inner
    obtain ⟨here, folds, stands⟩ := nested.stands isPrefix
    rw [← stands.1 inner]
    exact folds
  returns := by
    intro before statement isPrefix returns
    obtain ⟨here, folds, stands⟩ := nested.stands isPrefix
    obtain ⟨wrapper, around, rfl⟩ := List.exists_cons_of_ne_nil (stands.2 returns)
    exact ⟨wrapper, around, folds⟩

theorem nested_single {statement : Statement} (passes : statement.pass? around = some final)
    (notInner : statement.isInner = false) (returns : statement.isReturn = true → around ≠ []) :
    Nested options around [statement] final :=
  ⟨⟨by simp [notInner], returns⟩, final, passes, rfl⟩

/-- Statements that belong inside all wrappers change nothing. -/
theorem nested_inner (inner : ∀ statement ∈ statements, statement.isInner = true ∧
      (statement.isReturn = true → options.wrappers ≠ [])) :
    Nested options options.wrappers statements options.wrappers := by
  induction statements with
  | nil => rfl
  | cons statement rest inductionHypothesis =>
      obtain ⟨belongs, returns⟩ := inner statement (by simp)
      exact ⟨⟨fun _ => rfl, returns⟩, _, pass?_of_isInner belongs,
        inductionHypothesis fun other member => inner other (List.mem_cons_of_mem _ member)⟩

theorem Wraps.append {opened closed moreOpened moreClosed : List Wrapper}
    (before : Wraps opened closed first) (after : Wraps moreOpened moreClosed second) :
    Wraps (opened ++ moreOpened) (closed ++ moreClosed) (first ++ second) := by
  obtain ⟨rfl, rfl⟩ := before
  obtain ⟨rfl, rfl⟩ := after
  exact ⟨List.filterMap_append, List.filterMap_append⟩

theorem wraps_inner (inner : ∀ statement ∈ statements, statement.isInner = true) :
    Wraps [] [] statements := by
  have neither (statement : Statement) (belongs : statement.isInner = true) :
      statement.opens? = none ∧ statement.closes? = none := by
    cases statement <;> first | exact ⟨rfl, rfl⟩ | nomatch belongs
  exact ⟨List.filterMap_eq_nil_iff.mpr fun statement member =>
      (neither statement (inner statement member)).1,
    List.filterMap_eq_nil_iff.mpr fun statement member =>
      (neither statement (inner statement member)).2⟩

end Statement

open Statement (Nested Wraps)

namespace Options

variable {options : Options}

theorem amd_not_mem_outerWrappers (options : Options) : Wrapper.amd ∉ options.outerWrappers := by
  unfold outerWrappers
  split <;> simp

theorem wrappers_ne_nil (wraps : options.commonjs = true ∨ options.amd.isOn = true) :
    options.wrappers ≠ [] := by
  unfold wrappers outerWrappers
  rcases wraps with commonjs | amd
  · simp [commonjs]
  · simp [amd]

theorem wrappers_nodup (options : Options) : options.wrappers.Nodup := by
  unfold wrappers outerWrappers
  cases options.amd.isOn <;> cases options.commonjs <;> decide

/-- The wrappers around all fragments: all that are asked for, unless each fragment has its own. -/
def surroundings (options : Options) : List Wrapper :=
  match options.wrapScope with
  | .output => options.wrappers
  | .fragment => []

/-- The wrappers of each fragment. -/
def ownWrappers (options : Options) : List Wrapper :=
  match options.wrapScope with
  | .output => []
  | .fragment => options.wrappers

/-- How often a wrapper that is asked for stands in the output: once around the whole, or once
around each fragment. -/
def wrapperCount (options : Options) (fragments : Nat) : Nat :=
  match options.wrapScope with
  | .output => 1
  | .fragment => fragments

theorem count_wrappers (options : Options) (fragments : Nat) (wrapper : Wrapper) :
    options.surroundings.count wrapper + fragments * options.ownWrappers.count wrapper =
      if wrapper ∈ options.wrappers then options.wrapperCount fragments else 0 := by
  unfold surroundings ownWrappers wrapperCount
  cases options.wrapScope with
  | output => simp [List.Nodup.count options.wrappers_nodup]
  | fragment =>
      rw [List.Nodup.count options.wrappers_nodup]
      by_cases asked : wrapper ∈ options.wrappers
      · simp [asked]
      · simp [asked]

end Options

namespace Bundle

variable {environment : Environment} {options : Options} {bundle after : Bundle}
  {template : Template} {name ast compiled : Value} {body : String}

private theorem node_nested {lines : List Statement}
    (isNode : ∀ statement ∈ lines, statement.isInner = true ∧ statement.isReturn = false) :
    Nested options options.wrappers lines options.wrappers :=
  Statement.nested_inner fun statement member =>
    ⟨(isNode statement member).1, by simp [(isNode statement member).2]⟩

theorem opening_nested {lines : List Statement}
    (opened : opening environment options name ast compiled = .ok lines) :
    Nested options [] lines options.wrappers := by
  obtain ⟨dependencies, rfl⟩ := opening_ok opened
  have commonjs : Nested options []
      (if options.commonjs then [.commonjsOpen options.runtime] else []) options.outerWrappers := by
    unfold Options.outerWrappers
    by_cases isOn : options.commonjs = true
    · rw [if_pos isOn, if_pos isOn]
      exact Statement.nested_single rfl rfl nofun
    · rw [if_neg isOn, if_neg isOn]
      rfl
  have amd : Nested options options.outerWrappers
      (if options.amd.isOn then [.amdOpen dependencies options.runtime] else [])
      options.wrappers := by
    unfold Options.wrappers
    by_cases isOn : options.amd.isOn = true
    · rw [if_pos isOn, if_pos isOn]
      exact Statement.nested_single (if_neg options.amd_not_mem_outerWrappers) rfl nofun
    · rw [if_neg isOn, if_neg isOn]
      rfl
  refine (commonjs.append amd).append (node_nested ?_)
  cases hasNodeShim options <;> simp [Statement.isInner, Statement.isReturn]

theorem closing_nested (options : Options) (registry : Namespace.Registry) (target : List String) :
    Nested options options.wrappers (closing options registry target) [] := by
  -- Each wrapper that is closed may be left by a `return` just before.
  have leaving (wrapper : Wrapper) (around : List Wrapper) {returned : Prop} [Decidable returned]
      {returning closing : Statement} (returns : returning.isReturn = true)
      (stays : returning.pass? (wrapper :: around) = some (wrapper :: around))
      (closes : closing.pass? (wrapper :: around) = some around)
      (notInner : returning.isInner = false ∧ closing.isInner = false) :
      Nested options (wrapper :: around) ((if returned then [returning] else []) ++ [closing])
        around := by
    refine Nested.append ?_ (Statement.nested_single closes notInner.2 fun _ => by simp)
    split
    · exact Statement.nested_single stays notInner.1 fun _ => by simp
    · rfl
  have amd : Nested options options.wrappers
      (if options.amd.isOn then
        (if options.usesNamespace ∧ registry.globalNamespace ≠ "" then
          [.returnShared registry.globalNamespace] else []) ++ [.amdClose]
      else []) options.outerWrappers := by
    unfold Options.wrappers
    by_cases isOn : options.amd.isOn = true
    · rw [if_pos isOn, if_pos isOn]
      exact leaving .amd options.outerWrappers rfl rfl rfl ⟨rfl, rfl⟩
    · rw [if_neg isOn, if_neg isOn]
      rfl
  have commonjs : Nested options options.outerWrappers
      (if options.commonjs then
        (if options.usesNamespace ∧ target ≠ [] then [.returnLast target] else []) ++
          [.commonjsClose]
      else []) [] := by
    unfold Options.outerWrappers
    by_cases isOn : options.commonjs = true
    · rw [if_pos isOn, if_pos isOn]
      exact leaving .commonjs [] rfl rfl rfl ⟨rfl, rfl⟩
    · rw [if_neg isOn, if_neg isOn]
      rfl
  refine ((node_nested ?_).append amd).append commonjs
  split <;> simp [Statement.isInner, Statement.isReturn]

theorem opening_wraps {lines : List Statement}
    (opened : opening environment options name ast compiled = .ok lines) :
    Wraps options.wrappers.reverse [] lines := by
  obtain ⟨dependencies, rfl⟩ := opening_ok opened
  unfold Options.wrappers Options.outerWrappers
  cases options.commonjs <;> cases options.amd.isOn <;> cases hasNodeShim options <;>
    exact ⟨rfl, rfl⟩

theorem closing_wraps (options : Options) (registry : Namespace.Registry) (target : List String) :
    Wraps [] options.wrappers (closing options registry target) := by
  unfold closing
  dsimp only
  have node : Wraps [] []
      (if hasNodeShim options ∧ target ≠ [] then [.nodeExport target] else []) := by
    split <;> exact ⟨rfl, rfl⟩
  have amd : Wraps [] (if options.amd.isOn then [.amd] else [])
      (if options.amd.isOn then
        (if options.usesNamespace ∧ registry.globalNamespace ≠ "" then
          [.returnShared registry.globalNamespace] else []) ++ [.amdClose]
      else []) := by
    cases options.amd.isOn with
    | false => exact ⟨rfl, rfl⟩
    | true =>
        rw [if_pos rfl, if_pos rfl]
        split <;> exact ⟨rfl, rfl⟩
  have commonjs : Wraps [] options.outerWrappers
      (if options.commonjs then
        (if options.usesNamespace ∧ target ≠ [] then [.returnLast target] else []) ++
          [.commonjsClose]
      else []) := by
    unfold Options.outerWrappers
    cases options.commonjs with
    | false => exact ⟨rfl, rfl⟩
    | true =>
        rw [if_pos rfl, if_pos rfl]
        split <;> exact ⟨rfl, rfl⟩
  exact (node.append amd).append commonjs

theorem missing_inner {statement : Statement} {target : List String}
    (member : statement ∈ bundle.missing target) : statement.isInner = true := by
  obtain ⟨paths, _, rfl⟩ := missing_declares member
  rfl

theorem preamble_nested {lines : List Statement}
    (succeeds : Assembling.effect (preamble environment) (start options) = (.ok lines, after)) :
    Nested options [] lines options.surroundings := by
  unfold Options.surroundings
  cases preamble_ok succeeds with
  | none scope =>
      change options.wrapScope = _ at scope
      rw [scope]
      rfl
  | wrappers lines scope opened _ =>
      change options.wrapScope = _ at scope
      rw [scope]
      exact opening_nested opened
  | namespaced lines path target scope opened _ _ =>
      change options.wrapScope = _ at scope
      rw [scope]
      refine (opening_nested opened).append (node_nested fun statement member => ?_)
      obtain ⟨paths, _, rfl⟩ := missing_declares member
      exact ⟨rfl, rfl⟩

theorem preamble_wraps {lines : List Statement}
    (succeeds : Assembling.effect (preamble environment) (start options) = (.ok lines, after)) :
    Wraps options.surroundings.reverse [] lines := by
  unfold Options.surroundings
  cases preamble_ok succeeds with
  | none scope =>
      change options.wrapScope = _ at scope
      rw [scope]
      exact ⟨rfl, rfl⟩
  | wrappers lines scope opened _ =>
      change options.wrapScope = _ at scope
      rw [scope]
      exact opening_wraps opened
  | namespaced lines path target scope opened _ _ =>
      change options.wrapScope = _ at scope
      rw [scope]
      have declared : Wraps [] [] ((start options).missing target) :=
        Statement.wraps_inner fun statement member => missing_inner member
      have whole := (opening_wraps opened).append declared
      rw [List.append_nil] at whole
      exact whole

/-- What a template adds belongs inside all wrappers. -/
theorem additions_inner (bundle : Bundle) {asked : Contribution}
    (asks : Asks environment options template name asked) :
    ∀ statement ∈ bundle.additions asked, statement.isInner = true ∧
      (statement.isReturn = true → options.wrappers ≠ []) := by
  intro statement member
  rcases List.mem_append.mp member with declared | itself
  · obtain ⟨paths, _, rfl⟩ := missingSome_declares declared
    exact ⟨rfl, by simp [Statement.isReturn]⟩
  · obtain rfl := List.mem_singleton.mp itself
    exact ⟨Statement.inner_of_isContribution asks.contributes,
      fun returns => Options.wrappers_ne_nil (asks.wraps returns)⟩

/-- A fragment keeps the wrappers around it, and stands in its own. -/
theorem assemble_nested {ast : Value} {fragment : Fragment}
    (sameOptions : bundle.options = options)
    (succeeds : Assembling.effect (assemble environment template body ast) bundle =
      (.ok fragment, after)) :
    Nested options options.surroundings fragment.statements options.surroundings ∧
      Wraps options.ownWrappers.reverse options.ownWrappers fragment.statements := by
  subst sameOptions
  obtain ⟨asked, lines, ends, asks, rfl, wraps, whole⟩ := assemble_ok succeeds
  have inner := additions_inner bundle (contribution_ok asks)
  have nested := Statement.nested_inner inner
  have silent := Statement.wraps_inner fun statement member => (inner statement member).1
  have afterOptions := enteringSome_options bundle asked.entered
  rw [whole]
  unfold Options.surroundings Options.ownWrappers
  rcases wrappers_ok wraps with ⟨scope, rfl, rfl⟩ | ⟨scope, opened, rfl⟩
  · rw [afterOptions] at scope
    rw [scope, List.append_nil]
    exact ⟨nested, silent⟩
  · rw [afterOptions] at scope opened
    rw [scope, afterOptions]
    refine ⟨((opening_nested opened).append nested).append (closing_nested _ _ _), ?_⟩
    simpa using ((opening_wraps opened).append silent).append (closing_wraps bundle.options _ _)

theorem assembleAll_nested {templates : List (Template × Compiled)} {fragments : List Fragment}
    (sameOptions : bundle.options = options)
    (succeeds : Assembling.effect (assembleAll environment templates) bundle =
      (.ok fragments, after)) :
    Nested options options.surroundings (fragments.flatMap Fragment.statements)
        options.surroundings ∧
      Wraps (List.replicate fragments.length options.ownWrappers.reverse).flatten
        (List.replicate fragments.length options.ownWrappers).flatten
        (fragments.flatMap Fragment.statements) := by
  rw [assembleAll_ok_iff] at succeeds
  induction succeeds with
  | done bundle => exact ⟨rfl, rfl, rfl⟩
  | next assembled _ inductionHypothesis =>
      have kept := (assemble_leavesTally _ _ _ _).keepsOptions assembled
      obtain ⟨nested, wraps⟩ := assemble_nested sameOptions assembled
      obtain ⟨nestedRest, wrapsRest⟩ := inductionHypothesis (kept.trans sameOptions)
      rw [List.flatMap_cons, List.length_cons, List.replicate_succ, List.replicate_succ]
      exact ⟨nested.append nestedRest, wraps.append wrapsRest⟩

theorem ending_nested (sameOptions : bundle.options = options) :
    Nested options options.surroundings bundle.ending [] ∧
      Wraps [] options.surroundings bundle.ending := by
  unfold ending Options.surroundings
  rw [sameOptions]
  cases options.wrapScope with
  | output => exact ⟨closing_nested options _ _, closing_wraps options _ _⟩
  | fragment => exact ⟨rfl, rfl, rfl⟩

end Bundle

namespace Composition

variable {environment : Environment} {options : Options} {templates : List (Template × Compiled)}
  {composition : Composition}

private theorem nested_wraps
    (composed : Bundle.compose environment options templates = .ok composition) :
    Nested options [] composition.statements [] ∧
      Wraps (options.surroundings.reverse ++
          (List.replicate composition.fragments.length options.ownWrappers.reverse).flatten)
        ((List.replicate composition.fragments.length options.ownWrappers).flatten ++
          options.surroundings) composition.statements := by
  obtain ⟨begun, begins, assembled⟩ := of_compose composed
  have begunOptions : begun.options = options :=
    (Bundle.preamble_leavesTally environment).keepsOptions begins
  have lastOptions := (Bundle.assembleAll_leavesTally environment templates).keepsOptions assembled
  obtain ⟨nested, wraps⟩ := Bundle.assembleAll_nested begunOptions assembled
  obtain ⟨ends, wrapsEnd⟩ := Bundle.ending_nested (lastOptions.trans begunOptions)
  refine ⟨((Bundle.preamble_nested begins).append nested).append ends, ?_⟩
  have whole := ((Bundle.preamble_wraps begins).append wraps).append wrapsEnd
  rw [List.append_nil, List.nil_append] at whole
  exact whole

/-- Every bundle is well nested. -/
theorem wellNested
    (composed : Bundle.compose environment options templates = .ok composition) :
    Statement.WellNested options composition.statements :=
  (nested_wraps composed).1.wellNested

/-- Each wrapper that is asked for is opened and closed once, or once for each fragment. -/
theorem count_wrappers
    (composed : Bundle.compose environment options templates = .ok composition)
    (wrapper : Wrapper) :
    let times := if wrapper ∈ options.wrappers then
      options.wrapperCount composition.fragments.length else 0
    (composition.statements.filterMap Statement.opens?).count wrapper = times ∧
      (composition.statements.filterMap Statement.closes?).count wrapper = times := by
  intro times
  obtain ⟨_, opened, closed⟩ := nested_wraps composed
  have counted := options.count_wrappers composition.fragments.length wrapper
  rw [opened, closed]
  constructor
  · rw [List.count_append, List.count_reverse, List.count_flatten, List.map_replicate,
      List.sum_replicate_nat, List.count_reverse]
    exact counted
  · rw [List.count_append, List.count_flatten, List.map_replicate, List.sum_replicate_nat,
      Nat.add_comm]
    exact counted

end Composition

end TemplateBundle
