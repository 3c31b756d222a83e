import TemplateBundle.Proofs.Bundle.Declarations
import TemplateBundle.Proofs.Namespace.Outermost

/-!
Contract: namespaces resolved one after the other on one registry.

Owns: the run of a list of requests, of which any may fail; the law of what the run leaves in the
registry; and what the registry then takes all declarations to share.

Does not own: where the declarations of a bundle stand (`Proofs.Bundle.Declarations`).
-/

namespace TemplateBundle

open Namespace (Resolution bracketPath declarationsText pathsTo)

/-- A namespace that is asked for: by a rule, for a file. Each request has functions of its own, so
that one function may answer differently from request to request. -/
structure NamespaceRequest where
  environment : Environment
  rule : NamespaceRule
  file : String

namespace NamespaceRequest

/-- The segments that are asked for. -/
def target (request : NamespaceRequest) : Except Failure (List String) :=
  request.rule.target request.environment request.file

/-- The resolution of a request. -/
def resolve (request : NamespaceRequest) : Assembling Resolution :=
  Bundle.resolveBy request.environment request.rule request.file

/-- A request declares what is lacking of its namespace, or it fails and changes nothing. -/
theorem resolve_effect (request : NamespaceRequest) (bundle : Bundle) :
    Assembling.effect request.resolve bundle =
      match request.target with
      | .ok target => (.ok (bundle.registry.declareTo target).1, bundle.entering target)
      | .error failure => (.error failure, bundle) :=
  Bundle.resolveBy_effect request.environment request.rule request.file bundle

/-- Requests that are switched off or that fail leave the registry as it is. -/
theorem registry_unchanged {request : NamespaceRequest} {bundle : Bundle}
    (idle : request.rule = .off ∨
      ∃ failure, (Assembling.effect request.resolve bundle).1 = .error failure) :
    (Assembling.effect request.resolve bundle).2.registry = bundle.registry := by
  rw [resolve_effect] at idle ⊢
  rcases idle with off | ⟨failure, fails⟩
  · have nothing : request.target = .ok [] := by
      unfold target
      rw [off]
      rfl
    rw [nothing]
    simp [Bundle.entering, Namespace.Registry.declareTo_eq, Namespace.Registry.lacking, pathsTo]
  · cases asked : request.target with
    | error other => rfl
    | ok target => simp [asked] at fails

end NamespaceRequest

/-- The keys of a registry are as they should be after some resolutions: each stands once, where
its resolution declared it; they are the paths to the resolved namespaces and no others; each
stands behind its parent; and each is declared by a statement of its own. -/
structure Registered (resolutions : List Resolution) (keys : List String) : Prop where
  once : keys.Nodup
  inOrder : keys = (resolutions.flatMap Resolution.fresh).map bracketPath
  exactly : ∀ key, key ∈ keys ↔ ∃ resolution ∈ resolutions, ∃ path,
    path ≠ [] ∧ path <+: resolution.target ∧ key = bracketPath path
  afterParent : ∀ before path, before ++ [bracketPath path] <+: keys → path.dropLast ≠ [] →
    bracketPath path.dropLast ∈ before
  written : ∀ resolution ∈ resolutions, declarationsText resolution.fresh =
    String.intercalate "\n" ((resolution.fresh.map bracketPath).map fun key =>
      key ++ " = " ++ key ++ " || \x7b\x7d;")

namespace Bundle

/-- The outcomes of some requests, one after the other. One that fails does not stop the next. -/
def resolveAll : List NamespaceRequest → Bundle → List (Except Failure Resolution) × Bundle
  | [], bundle => ([], bundle)
  | request :: rest, bundle =>
      let (outcome, changed) := Assembling.effect request.resolve bundle
      let (outcomes, last) := resolveAll rest changed
      (outcome :: outcomes, last)

/-- The requests that are resolved. -/
def resolutions (requests : List NamespaceRequest) (bundle : Bundle) : List Resolution :=
  (resolveAll requests bundle).1.filterMap Except.toOption

variable {options : Options} {bundle : Bundle} {request : NamespaceRequest}
  {requests : List NamespaceRequest} {target : List String} {failure : Failure}

theorem resolveAll_refused (fails : request.target = .error failure)
    (rest : List NamespaceRequest) (bundle : Bundle) :
    resolveAll (request :: rest) bundle =
      (.error failure :: (resolveAll rest bundle).1, (resolveAll rest bundle).2) := by
  rw [resolveAll, request.resolve_effect, fails]

theorem resolveAll_entered (names : request.target = .ok target)
    (rest : List NamespaceRequest) (bundle : Bundle) :
    resolveAll (request :: rest) bundle =
      (.ok (bundle.registry.declareTo target).1 :: (resolveAll rest (bundle.entering target)).1,
        (resolveAll rest (bundle.entering target)).2) := by
  rw [resolveAll, request.resolve_effect, names]

theorem resolutions_refused (fails : request.target = .error failure)
    (rest : List NamespaceRequest) (bundle : Bundle) :
    resolutions (request :: rest) bundle = resolutions rest bundle := by
  rw [resolutions, resolveAll_refused fails]
  rfl

theorem resolutions_entered (names : request.target = .ok target)
    (rest : List NamespaceRequest) (bundle : Bundle) :
    resolutions (request :: rest) bundle =
      (bundle.registry.declareTo target).1 :: resolutions rest (bundle.entering target) := by
  rw [resolutions, resolveAll_entered names]
  rfl

/-- What a request names does not depend on the requests before it. -/
theorem resolveAll_targets (requests : List NamespaceRequest) (bundle : Bundle) :
    (resolveAll requests bundle).1.map (Except.map Resolution.target) =
      requests.map NamespaceRequest.target := by
  induction requests generalizing bundle with
  | nil => rfl
  | cons request rest inductionHypothesis =>
      cases names : request.target with
      | error failure =>
          rw [resolveAll_refused names, List.map_cons, inductionHypothesis, List.map_cons, names]
          rfl
      | ok target =>
          rw [resolveAll_entered names, List.map_cons, inductionHypothesis, List.map_cons, names,
            Namespace.Registry.declareTo_eq]
          rfl

theorem resolutions_targets (requests : List NamespaceRequest) (bundle : Bundle) :
    (resolutions requests bundle).map Resolution.target =
      (requests.map NamespaceRequest.target).filterMap Except.toOption := by
  rw [← resolveAll_targets requests bundle, resolutions, List.map_filterMap, List.filterMap_map]
  refine List.filterMap_congr fun outcome _ => ?_
  cases outcome <;> rfl

/-- Keys are only added, at the end. -/
theorem resolveAll_extends (requests : List NamespaceRequest) (bundle : Bundle) :
    bundle.registry.declared <+: (resolveAll requests bundle).2.registry.declared := by
  induction requests generalizing bundle with
  | nil => exact List.prefix_rfl
  | cons request rest inductionHypothesis =>
      cases names : request.target with
      | error failure =>
          rw [resolveAll_refused names]
          exact inductionHypothesis bundle
      | ok target =>
          rw [resolveAll_entered names]
          refine List.IsPrefix.trans ?_ (inductionHypothesis (bundle.entering target))
          rw [entering, Namespace.Registry.declareTo_eq]
          exact List.prefix_append _ _

/-- The invariant of a run: the registry holds what the declarations of the resolved requests
declare, each on the way to one of their namespaces. -/
theorem resolveAll_declaring (requests : List NamespaceRequest) (bundle : Bundle)
    {reasons : List (List String)} {statements : List Statement}
    (holds : Declaring reasons bundle.registry statements) :
    Declaring (reasons ++ (resolutions requests bundle).map Resolution.target)
      (resolveAll requests bundle).2.registry
      (statements ++ (resolutions requests bundle).flatMap declarations) := by
  induction requests generalizing bundle reasons statements with
  | nil =>
      change Declaring (reasons ++ []) bundle.registry (statements ++ [])
      rw [List.append_nil, List.append_nil]
      exact holds
  | cons request rest inductionHypothesis =>
      cases names : request.target with
      | error failure =>
          rw [resolutions_refused names, resolveAll_refused names]
          exact inductionHypothesis bundle holds
      | ok target =>
          have entered : Declaring (reasons ++ [target]) (bundle.entering target).registry
              (statements ++ declarations (bundle.registry.declareTo target).1) :=
            holds.enter target
          have later := inductionHypothesis (bundle.entering target) entered
          rw [resolutions_entered names, resolveAll_entered names, List.map_cons,
            List.flatMap_cons, ← List.append_assoc, ← List.singleton_append, ← List.append_assoc]
          rw [show (bundle.registry.declareTo target).1.target = target by
            rw [Namespace.Registry.declareTo_eq]]
          exact later

/-- All paths to a namespace that was resolved are keys at the end. -/
theorem resolveAll_ready {resolution : Resolution} {path : List String}
    (member : resolution ∈ resolutions requests bundle) (toTarget : path ∈ pathsTo resolution.target) :
    bracketPath path ∈ (resolveAll requests bundle).2.registry.declared := by
  induction requests generalizing bundle with
  | nil => simp [resolutions, resolveAll] at member
  | cons request rest inductionHypothesis =>
      cases names : request.target with
      | error failure =>
          rw [resolutions_refused names] at member
          rw [resolveAll_refused names]
          exact inductionHypothesis member
      | ok target =>
          rw [resolutions_entered names] at member
          rw [resolveAll_entered names]
          rcases List.mem_cons.mp member with rfl | later
          · rw [Namespace.Registry.declareTo_eq] at toTarget
            exact (resolveAll_extends rest (bundle.entering target)).subset
              (Declaring.ready_of_enter bundle.registry target path toTarget)
          · exact inductionHypothesis later

theorem declared_resolutions (resolutions : List Resolution) :
    Statement.declared (resolutions.flatMap declarations) =
      resolutions.flatMap Resolution.fresh := by
  induction resolutions with
  | nil => rfl
  | cons resolution rest inductionHypothesis =>
      rw [List.flatMap_cons, Statement.declared_append, declared_declarations,
        inductionHypothesis, List.flatMap_cons]

/-- The keys of a fresh registry on which some requests were resolved. -/
theorem resolveAll_registered (options : Options) (requests : List NamespaceRequest) :
    Registered (resolutions requests (start options))
      (resolveAll requests (start options)).2.registry.declared := by
  have holds := resolveAll_declaring requests (start options) Declaring.start
  rw [List.nil_append, List.nil_append] at holds
  have inOrder := holds.registered
  rw [declared_resolutions] at inOrder
  refine ⟨holds.once, inOrder, fun key => ⟨fun member => ?_, ?_⟩, ?_, fun _ _ => ?_⟩
  · rw [holds.registered] at member
    obtain ⟨path, declares, rfl⟩ := List.mem_map.mp member
    obtain ⟨some, target, reason, toTarget⟩ := holds.needed path declares
    obtain ⟨resolution, resolved, rfl⟩ := List.mem_map.mp reason
    exact ⟨resolution, resolved, path, some, toTarget, rfl⟩
  · rintro ⟨resolution, resolved, path, some, toTarget, rfl⟩
    exact resolveAll_ready resolved (Namespace.mem_pathsTo.mpr ⟨some, toTarget⟩)
  · intro before path isPrefix parent
    rw [holds.registered] at isPrefix
    obtain ⟨rest, whole⟩ := isPrefix
    obtain ⟨front, back, split, isFront, _⟩ := List.map_eq_append_iff.mp whole.symm
    obtain ⟨earlier, single, rfl, rfl, isLast⟩ := List.map_eq_append_iff.mp isFront
    obtain ⟨last, rfl, same⟩ := List.map_eq_singleton_iff.mp isLast
    obtain rfl := Namespace.bracketPath_injective same
    exact holds.afterParent earlier last ⟨back, split.symm⟩ parent
  · unfold declarationsText
    rw [List.map_map]
    rfl

/-- The keys are the same ones, whatever the order of the requests. -/
theorem resolveAll_perm {others : List NamespaceRequest} (permuted : others.Perm requests)
    (options : Options) :
    (resolveAll others (start options)).2.registry.declared.Perm
      (resolveAll requests (start options)).2.registry.declared := by
  have targets : ((resolutions others (start options)).map Resolution.target).Perm
      ((resolutions requests (start options)).map Resolution.target) := by
    rw [resolutions_targets, resolutions_targets]
    exact (permuted.map _).filterMap _
  have onTheWay {requests : List NamespaceRequest} {key : String} :
      key ∈ (resolveAll requests (start options)).2.registry.declared ↔
        ∃ target ∈ (resolutions requests (start options)).map Resolution.target,
          ∃ path, path ≠ [] ∧ path <+: target ∧ key = bracketPath path := by
    rw [(resolveAll_registered options requests).exactly key]
    simp only [List.mem_map, exists_exists_and_eq_and]
  refine (List.perm_ext_iff_of_nodup (resolveAll_registered options others).once
    (resolveAll_registered options requests).once).mpr fun key => ?_
  rw [onTheWay, onTheWay]
  exact exists_congr fun target => and_congr_left' targets.mem_iff

/-- The registry after any requests, of which some fail. What each request names is a matter of the
request alone. The keys are distinct, they are what the resolved requests declared, one after the
other, and they are all the paths to their namespaces, so that the order of the requests does not
matter to which keys there are. Each key stands behind its parent and has a declaration of its own.
A request that fails, or is switched off, changes no registry. -/
theorem resolveAll_registers (options : Options) (requests : List NamespaceRequest) :
    let run := resolveAll requests (start options)
    run.1.map (Except.map Resolution.target) = requests.map NamespaceRequest.target ∧
      Registered (run.1.filterMap Except.toOption) run.2.registry.declared ∧
      (∀ others : List NamespaceRequest, others.Perm requests →
        (resolveAll others (start options)).2.registry.declared.Perm run.2.registry.declared) ∧
      ∀ (request : NamespaceRequest) (bundle : Bundle),
        (request.rule = .off ∨
          ∃ failure, (Assembling.effect request.resolve bundle).1 = .error failure) →
        (Assembling.effect request.resolve bundle).2.registry = bundle.registry :=
  ⟨resolveAll_targets requests (start options), resolveAll_registered options requests,
    fun _ permuted => resolveAll_perm permuted options, fun _ _ => NamespaceRequest.registry_unchanged⟩

/-- A function that answers a path for some files, and nothing for the others. -/
def byFile : Environment where
  call := fun _ arguments =>
    if arguments = [.text "models.hbs"] then .ok (.text "App.Models") else .ok .null
  compiler := ⟨.ok (), .ok, fun _ _ => .ok ""⟩

/-- A path, a text that is none, no namespace, and what the function answers for two files. -/
def mixedRequests : List NamespaceRequest := [
  ⟨byFile, .fixed "App.Views", "a.hbs"⟩,
  ⟨byFile, .fixed "A..B", "a.hbs"⟩,
  ⟨byFile, .off, "a.hbs"⟩,
  ⟨byFile, .computed ⟨"hooks", "namespace"⟩, "models.hbs"⟩,
  ⟨byFile, .computed ⟨"hooks", "namespace"⟩, "views.hbs"⟩]

theorem resolveAll_registers_mixed_requests :
    let run := resolveAll mixedRequests (start {})
    run.2.registry.declared =
        ["this[\"App\"]", "this[\"App\"][\"Views\"]", "this[\"App\"][\"Models\"]"] ∧
      Registered (run.1.filterMap Except.toOption) run.2.registry.declared ∧
      (resolveAll mixedRequests.reverse (start {})).2.registry.declared.Perm
        run.2.registry.declared ∧
      (Assembling.effect (NamespaceRequest.resolve ⟨byFile, .fixed "A..B", "a.hbs"⟩)
        run.2).2.registry = run.2.registry := by
  have registers := resolveAll_registers {} mixedRequests
  exact ⟨by decide +kernel, registers.2.1,
    registers.2.2.1 mixedRequests.reverse (List.reverse_perm mixedRequests),
    registers.2.2.2 ⟨byFile, .fixed "A..B", "a.hbs"⟩ _ (.inr ⟨_, rfl⟩)⟩

/-! ### The namespace that is taken to be shared -/

/-- After a request that is resolved, its first segment is the first key. -/
theorem resolveAll_root {root : String} {below : List String}
    (names : request.target = .ok (root :: below)) (others : List NamespaceRequest)
    (options : Options) :
    ∃ later, (resolveAll (request :: others) (start options)).2.registry.declared =
      bracketPath [root] :: later := by
  rw [resolveAll_entered names]
  obtain ⟨later, whole⟩ := resolveAll_extends others ((start options).entering (root :: below))
  have entered : ((start options).entering (root :: below)).registry.declared =
      bracketPath [root] :: (pathsTo below).map fun path => bracketPath (root :: path) := by
    rw [entering, Namespace.Registry.declareTo_eq]
    change [] ++ (Namespace.Registry.empty.lacking (root :: below)).map bracketPath = _
    rw [Namespace.Registry.lacking_empty, List.nil_append, Namespace.pathsTo_cons, List.map_cons,
      List.map_map]
    rfl
  rw [← whole, entered, List.cons_append]
  exact ⟨_, rfl⟩

/-- What the registry takes all declarations to share, after requests of which the first one is
resolved: the first segment of its namespace, if that is the only key, or if the segment is not cut
where its text is searched. Of a segment that is cut, with several keys, only the text up to the last
closing bracket before its first opening one is found. -/
theorem resolveAll_shares_root (options : Options) (others : List NamespaceRequest)
    (asks : request.rule ≠ .off) (names : request.target = .ok target) :
    ∃ root below, target = root :: below ∧
      let registry := (resolveAll (request :: others) (start options)).2.registry
      (registry.globalNamespace = bracketPath [root] ↔
        registry.declared.length = 1 ∨ ¬ Namespace.IsCut root) ∧
      (Namespace.IsCut root → registry.declared.length ≠ 1 →
        ∃ front middle after : List Char, root.toList = front ++ ']' :: middle ++ '[' :: after ∧
          '[' ∉ front ++ ']' :: middle ∧ ']' ∉ middle ∧
          registry.globalNamespace = String.ofList ("this[\"".toList ++
            front.flatMap (Text.literalCharacter .all) ++ [']'])) := by
  obtain ⟨root, below, rfl⟩ := List.exists_cons_of_ne_nil (NamespaceRule.target_ne_nil asks names)
  refine ⟨root, below, rfl, ?_⟩
  dsimp only
  obtain ⟨later, keys⟩ := resolveAll_root names others options
  cases later with
  | nil =>
      have only : (resolveAll (request :: others) (start options)).2.registry.globalNamespace =
          bracketPath [root] := by
        rw [Namespace.Registry.globalNamespace, keys]
      simp [only, keys]
  | cons second rest =>
      have shared : (resolveAll (request :: others) (start options)).2.registry.globalNamespace =
          Namespace.Registry.outermost (bracketPath [root]) := by
        rw [Namespace.Registry.globalNamespace, keys]
      have several : (resolveAll (request :: others) (start options)).2.registry.declared.length ≠
          1 := by
        simp [keys]
      rw [shared]
      refine ⟨?_, fun cut _ => Namespace.Registry.outermost_cut cut⟩
      rw [Namespace.Registry.outermost_root_iff, or_iff_right several]

theorem resolveAll_shares_root_of_two_paths :
    (NamespaceRule.fixed "App.Views" ≠ .off) ∧
      (NamespaceRequest.target ⟨byFile, .fixed "App.Views", "a.hbs"⟩ = .ok ["App", "Views"]) ∧
      (resolveAll [⟨byFile, .fixed "App.Views", "a.hbs"⟩,
        ⟨byFile, .computed ⟨"hooks", "namespace"⟩, "models.hbs"⟩]
          (start {})).2.registry.globalNamespace = "this[\"App\"]" := by
  have asks : NamespaceRule.fixed "App.Views" ≠ .off := by decide
  have names : NamespaceRequest.target ⟨byFile, .fixed "App.Views", "a.hbs"⟩ =
      .ok ["App", "Views"] := rfl
  obtain ⟨root, below, same, shares, _⟩ := resolveAll_shares_root {}
    [⟨byFile, .computed ⟨"hooks", "namespace"⟩, "models.hbs"⟩] asks names
  obtain ⟨rfl, rfl⟩ := List.cons.inj same
  exact ⟨asks, names, shares.mpr (.inr (by decide))⟩

/-- The first segment holds both brackets, the closing one first: what is taken to be shared stops
there, as soon as there is a second key. -/
theorem resolveAll_cuts_root :
    (NamespaceRequest.target ⟨byFile, .fixed "[\"a]b[c\"].x", "a.hbs"⟩ = .ok ["a]b[c", "x"]) ∧
      (resolveAll [⟨byFile, .fixed "[\"a]b[c\"].x", "a.hbs"⟩]
        (start {})).2.registry.globalNamespace = "this[\"a]" ∧
      "this[\"a]" ≠ bracketPath ["a]b[c"] :=
  ⟨rfl, by decide +kernel, by decide⟩

end Bundle

end TemplateBundle
