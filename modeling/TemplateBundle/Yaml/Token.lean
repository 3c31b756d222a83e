import TemplateBundle.Yaml.Refusal

/-!
Contract: the tokens of a YAML document.

Owns: the tokens; those for the start and end of blocks come from indentation. Where the text
cannot be cut any further, the last token says why.
-/

namespace TemplateBundle.Yaml

/-- A line of directions before a document. -/
inductive Directive where
  | version (major : Nat)
  | tag (handle start : String)
  | other
deriving DecidableEq, Repr

/-- A token. -/
inductive Token where
  | directive (directive : Directive)
  | documentStart
  | documentEnd
  | streamEnd
  | blockSequenceStart
  | blockMappingStart
  | blockEnd
  | flowSequenceStart
  | flowSequenceEnd
  | flowMappingStart
  | flowMappingEnd
  | blockEntry
  | flowEntry
  | key
  | value
  | reference (name : String)
  | anchor (name : String)
  /-- A tag: a handle, unless the tag is written out, and what follows it. -/
  | tag (handle : Option String) (suffix : String)
  | scalar (content : String) (plain : Bool)
  /-- From here on the text is refused. -/
  | broken (refusal : Refusal)
deriving DecidableEq, Repr

end TemplateBundle.Yaml
