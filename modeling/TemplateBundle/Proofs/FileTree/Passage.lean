import TemplateBundle.Proofs.FileTree.Walk

/-!
Contract: ways in two parts.

Owns: the passage along the first parts of a way, with the links that are left after it; a way
goes on where its passage ends; the way along ordinary names below a directory.
-/

namespace TemplateBundle.FileTree

/-- Some parts are passed from a location, links followed: they lead to another location, and
so many more links may follow. -/
inductive Passes (tree : FileTree) : Nat → Location → List String → Nat → Location → Prop
  | done (budget : Nat) (location : Location) : Passes tree budget location [] budget location
  | here {budget left : Nat} {location last : Location} {part : String} {rest : List String} :
      tree.isDirectoryAt location = true → part = "." ∨ part = "" →
      Passes tree budget location rest left last →
      Passes tree budget location (part :: rest) left last
  | up {budget left : Nat} {location last : Location} {part : String} {rest : List String} :
      tree.isDirectoryAt location = true → part = ".." →
      Passes tree budget location.dropLast rest left last →
      Passes tree budget location (part :: rest) left last
  | through {budget left : Nat} {location last : Location} {part : String} {rest : List String}
      (node : Node) : tree.isDirectoryAt location = true → IsName part →
      tree.node? (location ++ [part]) = some node → (∀ target, node ≠ .link target) →
      Passes tree budget (location ++ [part]) rest left last →
      Passes tree budget location (part :: rest) left last
  | link {budget left : Nat} {location last : Location} {part : String} {rest : List String}
      (target : String) : tree.isDirectoryAt location = true → IsName part →
      tree.node? (location ++ [part]) = some (.link target) →
      Passes tree budget (startOf target location) (wayOf target ++ rest) left last →
      Passes tree (budget + 1) location (part :: rest) left last

variable {tree before after : FileTree} {arrival : Arrival} {budget left : Nat}
  {location here : Location} {parts rest names : List String} {place : Place}

namespace Passes

theorem append {middle : Nat} {between last : Location} {others : List String}
    (first : Passes tree budget location parts middle between)
    (second : Passes tree middle between others left last) :
    Passes tree budget location (parts ++ others) left last := by
  induction first with
  | done => exact second
  | here directory isHere _ inductionHypothesis =>
      exact .here directory isHere (inductionHypothesis second)
  | up directory isUp _ inductionHypothesis =>
      exact .up directory isUp (inductionHypothesis second)
  | through node directory isName stands notLink _ inductionHypothesis =>
      exact .through node directory isName stands notLink (inductionHypothesis second)
  | link target directory isName stands _ inductionHypothesis =>
      have tail := inductionHypothesis second
      rw [List.append_assoc] at tail
      exact .link target directory isName stands tail

/-- A way goes on where its passage ends. -/
theorem walk (passes : Passes tree budget location parts left here) (some : rest ≠ [])
    (notSlash : ¬ (arrival = .making ∧ rest = [""])) :
    tree.walk arrival budget location (parts ++ rest) = tree.walk arrival left here rest := by
  have more (front : List String) : ¬ (arrival = .making ∧ front ++ rest = [""]) := by
    rintro ⟨isMaking, alone⟩
    cases front with
    | nil => exact notSlash ⟨isMaking, alone⟩
    | cons first others =>
        simp only [List.cons_append, List.cons.injEq, List.append_eq_nil_iff] at alone
        exact some alone.2.2
  have notEnd (front : List String) : ¬ (front ++ rest = [] ∧ arrival = .atLink) := by
    rintro ⟨none, _⟩
    exact some (List.append_eq_nil_iff.mp none).2
  induction passes with
  | done => rfl
  | here directory isHere _ inductionHypothesis =>
      rw [List.cons_append, walk_onward (Turning.here directory isHere).eq]
      exact inductionHypothesis
  | up directory isUp _ inductionHypothesis =>
      rw [List.cons_append, walk_onward (Turning.up directory isUp).eq]
      exact inductionHypothesis
  | through node directory isName stands notLink _ inductionHypothesis =>
      rw [List.cons_append,
        walk_onward (Turning.through node directory isName (more _) stands notLink).eq]
      exact inductionHypothesis
  | link target directory isName stands _ inductionHypothesis =>
      rw [List.cons_append,
        walk_aside (Turning.aside target directory isName (more _) (notEnd _) stands).eq,
        ← List.append_assoc]
      exact inductionHypothesis

/-- A passage to a node is a way that leads to it. -/
theorem walk_behindLink {node : Node} (passes : Passes tree budget location parts left here)
    (stands : tree.node? here = some node) :
    tree.walk .behindLink budget location parts = .ok (.occupied here node) := by
  induction passes with
  | done budget location => rw [walk_nil, stands]
  | here directory isHere _ inductionHypothesis =>
      rw [walk_onward (Turning.here directory isHere).eq]
      exact inductionHypothesis stands
  | up directory isUp _ inductionHypothesis =>
      rw [walk_onward (Turning.up directory isUp).eq]
      exact inductionHypothesis stands
  | through node directory isName present notLink _ inductionHypothesis =>
      rw [walk_onward (Turning.through node directory isName (by simp) present notLink).eq]
      exact inductionHypothesis stands
  | link target directory isName present _ inductionHypothesis =>
      rw [walk_aside (Turning.aside target directory isName (by simp) (by simp) present).eq]
      exact inductionHypothesis stands

/-- What was passed is passed after growth. -/
theorem grows (grows : Grows before after)
    (passes : Passes before budget location parts left here) :
    Passes after budget location parts left here := by
  induction passes with
  | done => exact .done _ _
  | here directory isHere _ inductionHypothesis =>
      exact .here (grows.isDirectoryAt directory) isHere inductionHypothesis
  | up directory isUp _ inductionHypothesis =>
      exact .up (grows.isDirectoryAt directory) isUp inductionHypothesis
  | through node directory isName stands notLink _ inductionHypothesis =>
      obtain ⟨later, standsLater, same⟩ := grows.kept _ node stands
      refine .through later (grows.isDirectoryAt directory) isName standsLater ?_
        inductionHypothesis
      rintro target rfl
      exact notLink target (shape_eq_link same.symm)
  | link target directory isName stands _ inductionHypothesis =>
      exact .link target (grows.isDirectoryAt directory) isName (grows.link stands)
        inductionHypothesis

end Passes

/-- A way that leads to a node, links followed, is a passage to its location. -/
theorem passes_of_walk {node : Node}
    (leads : tree.walk .behindLink budget location parts = .ok (.occupied here node)) :
    ∃ left, Passes tree budget location parts left here := by
  replace leads := leads_of_walk leads
  generalize ending : Place.occupied here node = place at leads
  induction leads with
  | atEnd stands =>
      obtain ⟨rfl, rfl⟩ := Place.occupied.inj ending
      exact ⟨_, .done _ _⟩
  | onward turning _ inductionHypothesis =>
      obtain ⟨left, passes⟩ := inductionHypothesis ending
      cases turning with
      | here directory isHere => exact ⟨left, .here directory isHere passes⟩
      | up directory isUp => exact ⟨left, .up directory isUp passes⟩
      | through node directory isName _ stands notLink =>
          exact ⟨left, .through node directory isName stands notLink passes⟩
  | aside turning _ inductionHypothesis =>
      obtain ⟨left, passes⟩ := inductionHypothesis ending
      cases turning with
      | aside target directory isName _ _ stands =>
          exact ⟨left, .link target directory isName stands passes⟩
  | ends turning =>
      subst ending
      cases turning with
      | atLink target directory isName _ atEnd _ => simp at atEnd

private theorem directory_of_turning {part : String} {result : Turn}
    (turning : Turning tree arrival location part rest result)
    (proceeds : result ≠ .breaks .notDirectory) : tree.isDirectoryAt location = true := by
  cases turning with
  | outside _ => exact absurd rfl proceeds
  | _ => assumption

/-- The first parts of a way that leads somewhere are a passage to a directory. -/
theorem passes_of_walk_append (some : rest ≠ []) {front : List String}
    (leads : tree.walk arrival budget location (front ++ rest) = .ok place) :
    ∃ left here, Passes tree budget location front left here ∧
      tree.isDirectoryAt here = true := by
  replace leads := leads_of_walk leads
  generalize whole : front ++ rest = parts at leads
  induction leads generalizing front with
  | atEnd _ => exact absurd (List.append_eq_nil_iff.mp whole).2 some
  | onward turning _ inductionHypothesis =>
      cases front with
      | nil => exact ⟨_, _, .done _ _, directory_of_turning turning (by simp)⟩
      | cons first more =>
          obtain ⟨rfl, same⟩ := List.cons.inj whole
          obtain ⟨left, here, passes, reached⟩ := inductionHypothesis same
          refine ⟨left, here, ?_, reached⟩
          cases turning with
          | here directory isHere => exact .here directory isHere passes
          | up directory isUp => exact .up directory isUp passes
          | through node directory isName _ stands notLink =>
              exact .through node directory isName stands notLink passes
  | aside turning _ inductionHypothesis =>
      cases front with
      | nil => exact ⟨_, _, .done _ _, directory_of_turning turning (by simp)⟩
      | cons first more =>
          obtain ⟨rfl, same⟩ := List.cons.inj whole
          cases turning with
          | aside target directory isName _ _ stands =>
              have split : (wayOf target ++ more) ++ rest = wayOf target ++ more.append rest :=
                List.append_assoc ..
              rw [same] at split
              obtain ⟨left, here, passes, reached⟩ := inductionHypothesis split
              exact ⟨left, here, .link target directory isName stands passes, reached⟩
  | ends turning =>
      cases front with
      | nil => exact ⟨_, _, .done _ _, directory_of_turning turning (by simp)⟩
      | cons first more =>
          obtain ⟨rfl, same⟩ := List.cons.inj whole
          cases turning with
          | free _ _ last _ | atLink _ _ _ last _ _ =>
              rw [last] at same
              exact absurd (List.append_eq_nil_iff.mp same).2 some

/-! ### Passages of paths -/

/-- The location that a path is walked from. -/
def startOfPath (tree : FileTree) (path : Path) : Location :=
  if path.slashes = 0 then tree.home else []

theorem find_eq_walk {path : Path} (usable : path.isUsable = true) :
    tree.find arrival path =
      tree.walk arrival linkBudget (tree.startOfPath path) path.parts := by
  unfold find
  rw [if_pos usable]
  rfl

theorem usable_of_find {path : Path} (leads : tree.find arrival path = .ok place) :
    path.isUsable = true := by
  by_cases usable : path.isUsable = true
  · exact usable
  · simp [find, usable] at leads

theorem isUsable_append {slashes : Nat} {front : List String} :
    (⟨slashes, front ++ rest⟩ : Path).isUsable = true ↔
      (⟨slashes, front⟩ : Path).isUsable = true ∧ (⟨slashes, rest⟩ : Path).isUsable = true := by
  simp [Path.isUsable]

/-- If a path leads somewhere, the path above it leads to a directory. -/
theorem findNode_of_find_append {slashes : Nat} {front : List String} (some : rest ≠ [])
    (leads : tree.find arrival ⟨slashes, front ++ rest⟩ = .ok place) :
    ∃ location, tree.findNode ⟨slashes, front⟩ = .ok (location, .directory) := by
  have usable := usable_of_find leads
  rw [find_eq_walk usable] at leads
  obtain ⟨left, here, passes, directory⟩ := passes_of_walk_append some leads
  refine ⟨here, ?_⟩
  unfold findNode
  rw [find_eq_walk (isUsable_append.mp usable).1]
  change Except.bind (tree.walk .behindLink linkBudget
    (tree.startOfPath ⟨slashes, front ++ rest⟩) front) _ = _
  rw [passes.walk_behindLink (isDirectoryAt_iff.mp directory)]
  rfl

/-- A name that is found free, links not followed at the end, is the last one of the path. -/
theorem vacant_of_find_atLink {path : Path} {free : Location}
    (leads : tree.find .atLink path = .ok (.vacant free)) :
    ∃ parent name, free = parent ++ [name] ∧ name ∈ path.parts ∧
      tree.isDirectoryAt parent = true := by
  rw [find_eq_walk (usable_of_find leads)] at leads
  by_cases none : path.parts = []
  · rw [none, walk_nil] at leads
    cases stands : tree.node? (tree.startOfPath path) <;> simp [stands] at leads
  · rw [← List.dropLast_concat_getLast none] at leads
    obtain ⟨left, here, passes, directory⟩ := passes_of_walk_append (by simp) leads
    rw [passes.walk (by simp) (by simp)] at leads
    -- The last turn is one to the free name: one onward would lead to a node.
    cases leads_of_walk leads with
    | onward _ later => cases later
    | aside turning _ =>
        cases turning with
        | aside _ _ _ _ notEnd _ => exact absurd ⟨rfl, rfl⟩ notEnd
    | ends turning =>
        cases turning with
        | free _ _ _ _ => exact ⟨here, _, rfl, List.getLast_mem none, directory⟩

/-! ### Ordinary names below a directory -/

/-- A name that stands in a directory is passed, unless it is a link. -/
theorem walk_name {name : String} {node : Node} (directory : tree.isDirectoryAt location = true)
    (isName : IsName name) (notSlash : ¬ (arrival = .making ∧ rest = [""]))
    (stands : tree.node? (location ++ [name]) = some node)
    (notLink : ∀ target, node ≠ .link target) :
    tree.walk arrival budget location (name :: rest) =
      tree.walk arrival budget (location ++ [name]) rest :=
  walk_onward (Turning.through node directory isName notSlash stands notLink).eq

/-- Names of directories, one in the other, are passed. -/
theorem passes_names (isNames : ∀ name ∈ names, IsName name)
    (start : tree.isDirectoryAt location = true)
    (directories : ∀ front, front <+: names → tree.isDirectoryAt (location ++ front) = true) :
    Passes tree budget location names budget (location ++ names) := by
  induction names generalizing location with
  | nil =>
      rw [List.append_nil]
      exact .done _ _
  | cons name rest inductionHypothesis =>
      have stands := directories [name] ⟨rest, rfl⟩
      have tail : Passes tree budget (location ++ [name]) rest budget
          (location ++ [name] ++ rest) := by
        apply inductionHypothesis (fun other member => isNames other (by simp [member])) stands
        rintro front ⟨others, rfl⟩
        rw [List.append_assoc]
        exact directories ([name] ++ front) ⟨others, by simp⟩
      rw [List.append_assoc] at tail
      exact .through .directory start (isNames name (by simp)) (isDirectoryAt_iff.mp stands)
        (by simp) tail

end TemplateBundle.FileTree
