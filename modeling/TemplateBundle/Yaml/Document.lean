import TemplateBundle.Yaml.Construction
import TemplateBundle.Yaml.Tokens

/-!
Contract: the value of a YAML document.

Owns: the value of each node, mappings in which a key is repeated, and the reading of a whole
text.

A repeated key keeps its first place and takes its last value. A value has no parts without end:
where a collection would hold itself for the second time, it stands there without its parts.
-/

namespace TemplateBundle.Yaml

/-- The values of nodes that are known to be complete. -/
abbrev KnownValues := Array (Option Value)

/-- A step that uses known values and adds to them. -/
abbrev Valuation := StateM KnownValues

namespace Construction

/-- How often a collection may stand in itself. -/
def selfLimit : Nat := 2

/-- The value of a scalar that has been met. -/
def scalar (construction : Construction) (number : Nat) : Value :=
  (construction.values[number]?).join.getD .null

/-- The value of a node below some others, and whether all of it is there. -/
def valueAt (construction : Construction) : Nat → List Nat → Nat → Valuation (Value × Bool)
  | 0, _, _ => return (.null, false)
  | fuel + 1, path, number => do
      match ((← get)[number]?).join with
      | some known => return (known, true)
      | none =>
          let nested := selfLimit ≤ path.count number
          let (value, complete) ← match construction.nodes[number]? with
            | some (.sequence .sequence items) =>
                if nested then pure (.list [], false)
                else do
                  let parts ← items.mapM fun item => valueAt construction fuel (number :: path) item
                  pure (.list (parts.map Prod.fst), parts.all Prod.snd)
            | some (.mapping .mapping pairs) =>
                if nested then pure (.map [], false)
                else do
                  let parts ← pairs.mapM fun pair => do
                    let value ← valueAt construction fuel (number :: path) pair.2
                    pure ((construction.scalar pair.1, value.1), value.2)
                  pure (.map (Entries.ofPairs (parts.map Prod.fst)), parts.all Prod.snd)
            | _ => pure (construction.scalar number, true)
          if complete then modify (·.setIfInBounds number (some value))
          return (value, complete)

/-- The value of a node. On the way to a part each node stands as often as it may. -/
def value (construction : Construction) (number : Nat) : Value :=
  let size := construction.nodes.size
  ((construction.valueAt ((selfLimit + 1) * size + 1) [] number).run
    (Array.replicate size none)).1.1

end Construction

/-- A text with a line feed at the end of every line. -/
def unifyLineEnds : List Char → List Char
  | [] => []
  | '\r' :: '\n' :: rest => '\n' :: unifyLineEnds rest
  | '\r' :: rest => '\n' :: unifyLineEnds rest
  | character :: rest => character :: unifyLineEnds rest

/-- The value of the document that a text holds. A text without a document is null. -/
def readDocument (text : String) : Except Refusal Value := do
  match ← Composition.ofTokens (tokensOf (unifyLineEnds text.toList)) with
  | none => .ok .null
  | some document => do
      let construction ← Construction.ofComposition document
      .ok (construction.value document.root)

end TemplateBundle.Yaml
