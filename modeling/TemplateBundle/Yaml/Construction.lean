import TemplateBundle.Yaml.Node

/-!
Contract: which documents have a value, and what is taken over by mappings.

Owns: the order in which nodes are looked at, and with it the first of several faults; mappings
that take over the pairs of others; and the nodes that cannot be keys.

The parts of a sequence or a mapping are looked at after everything that was met before them, so
that a document is gone through level by level. A mapping takes over pairs when its own turn comes.
-/

namespace TemplateBundle.Yaml

/-- The kinds of nodes that have parts. -/
def Kind.isCollection (kind : Kind) : Bool := kind = .sequence || kind = .mapping

namespace Graph

/-- The pairs of a node. -/
def pairsOf (nodes : Graph) (number : Nat) : List (Nat × Nat) :=
  match nodes[number]? with
  | some (.mapping _ pairs) => pairs
  | _ => []

/-- The kind of a node. -/
def kindOf (nodes : Graph) (number : Nat) : Kind :=
  (nodes[number]?.map Node.kind).getD .unknown

/-- The node is a mapping. -/
def isMapping (nodes : Graph) (number : Nat) : Bool :=
  match nodes[number]? with
  | some (.mapping _ _) => true
  | _ => false

/-- The graph with other pairs for a mapping. -/
def withPairs (nodes : Graph) (number : Nat) (pairs : List (Nat × Nat)) : Graph :=
  nodes.modify number fun
    | .mapping kind _ => .mapping kind pairs
    | other => other

/-- The node as one of another kind. -/
def withKind (nodes : Graph) (number : Nat) (kind : Kind) : Graph :=
  nodes.modify number fun
    | .scalar _ content => .scalar kind content
    | .sequence _ items => .sequence kind items
    | .mapping _ pairs => .mapping kind pairs

/-! ## Pairs that are taken over -/

/-- The first value under a key that takes over pairs, and the pairs without it. -/
def splitMerge (nodes : Graph) : List (Nat × Nat) → Option (Nat × List (Nat × Nat))
  | [] => none
  | (key, value) :: rest =>
      if nodes.kindOf key = .merge then some (value, rest)
      else (splitMerge nodes rest).map fun (found, others) => (found, (key, value) :: others)

/-- The keys that mark a mapping's own value are texts once the mapping is read as one. -/
def settleKeys (nodes : Graph) (pairs : List (Nat × Nat)) : Graph :=
  pairs.foldl (fun nodes pair =>
    if nodes.kindOf pair.1 = .own then nodes.withKind pair.1 .text else nodes) nodes

/-- Takes over the pairs of other mappings, after some that have been taken over. They come before
the own ones; among the mappings of a sequence those of the last come first. -/
def takeOver : Nat → Nat → List (Nat × Nat) → Graph → Except Refusal Graph
  | 0, _, _, _ => .error .tooDeep
  | fuel + 1, number, taken, nodes =>
      match nodes.splitMerge (nodes.pairsOf number) with
      | none =>
          let own := nodes.pairsOf number
          .ok ((nodes.settleKeys own).withPairs number (taken ++ own))
      | some (source, rest) => do
          let nodes := nodes.withPairs number rest
          match nodes[source]? with
          | some (.mapping _ _) => do
              let nodes ← takeOver fuel source [] nodes
              takeOver fuel number (taken ++ nodes.pairsOf source) nodes
          | some (.sequence _ items) => do
              let (found, nodes) ← items.foldlM (fun (found, nodes) item =>
                if nodes.isMapping item then do
                  let nodes ← takeOver fuel item [] nodes
                  .ok (nodes.pairsOf item ++ found, nodes)
                else .error .malformed) ([], nodes)
              takeOver fuel number (taken ++ found) nodes
          | _ => .error .malformed

/-- The number of pairs of all nodes. Each can be taken out of its mapping once. -/
def pairCount (nodes : Graph) : Nat :=
  nodes.foldl (fun count node =>
    match node with
    | .mapping _ pairs => count + pairs.length
    | _ => count) 0

/-! ## Scalars -/

/-- The content of a node that is to be a scalar: its text, or the content under the key of a
mapping's own value. -/
def content (nodes : Graph) : Nat → Nat → Except Refusal String
  | 0, _ => .error .tooDeep
  | fuel + 1, number =>
      match nodes[number]? with
      | some (.scalar _ content) => .ok content
      | some (.mapping _ pairs) =>
          match pairs.find? fun pair => nodes.kindOf pair.1 = .own with
          | some (_, value) => content nodes fuel value
          | none => .error .malformed
      | _ => .error .malformed

/-- The value of a node of a scalar kind. A date has to be a scalar itself. -/
def scalarAt (nodes : Graph) (number : Nat) : Except Refusal Value := do
  let kind := nodes.kindOf number
  if kind = .unknown ∨ kind = .merge ∨ kind = .own then .error .malformed
  else
    let text ← nodes.content (nodes.size + 1) number
    if kind = .timestamp ∧ nodes.isMapping number then .error .notScalar
    else scalarValue kind text

end Graph

/-! ## Going through a document -/

/-- A document that is being gone through: the nodes, which of them have been met, the values of
the scalars among those, and the collections whose parts have not been looked at, the last one
first. -/
structure Construction where
  nodes : Graph
  met : Array Bool
  values : Array (Option Value)
  pending : List Nat

namespace Construction

/-- Nodes of which none has been met. -/
def ofNodes (nodes : Graph) : Construction :=
  ⟨nodes, Array.replicate nodes.size false, Array.replicate nodes.size none, []⟩

/-- Meets a node: a scalar gets its value, a collection waits for its turn. -/
def meet (number : Nat) (construction : Construction) : Except Refusal Construction :=
  if construction.met[number]? = some true then .ok construction
  else
    let construction :=
      { construction with met := construction.met.setIfInBounds number true }
    if (construction.nodes.kindOf number).isCollection then
      .ok { construction with pending := number :: construction.pending }
    else do
      let value ← construction.nodes.scalarAt number
      .ok { construction with values := construction.values.setIfInBounds number (some value) }

/-- Meets the key and the value of a pair. A collection is no key. -/
def meetPair (pair : Nat × Nat) (construction : Construction) : Except Refusal Construction := do
  let construction ← construction.meet pair.1
  if (construction.nodes.kindOf pair.1).isCollection then .error .malformed
  else construction.meet pair.2

/-- Looks at the parts of a collection. Its kind has to fit what it is. -/
def visit (number : Nat) (construction : Construction) : Except Refusal Construction := do
  match construction.nodes[number]? with
  | some (.sequence .sequence items) =>
      items.foldlM (fun construction item => construction.meet item) construction
  | some (.mapping .mapping _) => do
      let nodes ← construction.nodes.takeOver (construction.nodes.pairCount + 1) number []
      (nodes.pairsOf number).foldlM (fun construction pair => construction.meetPair pair)
        { construction with nodes }
  | _ => .error .malformed

/-- Looks at the collections of each level, in the order in which they were met. -/
def visitAll : Nat → Construction → Except Refusal Construction
  | 0, construction => .ok construction
  | fuel + 1, construction =>
      match construction.pending with
      | [] => .ok construction
      | level => do
          let start := { construction with pending := [] }
          visitAll fuel (← level.reverse.foldlM (fun construction number =>
            construction.visit number) start)

/-- Goes through a document. -/
def ofComposition (document : Composition) : Except Refusal Construction := do
  visitAll document.nodes.size (← (ofNodes document.nodes).meet document.root)

end Construction

end TemplateBundle.Yaml
