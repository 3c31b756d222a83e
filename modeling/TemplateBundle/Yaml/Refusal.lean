/-!
Contract: why a YAML document is refused.

Owns: the causes. Only the first of them is an error of the notation; the others come from a text
that is a document and yet cannot be turned into a value.
-/

namespace TemplateBundle.Yaml

/-- Why a document is refused. -/
inductive Refusal where
  /-- The text is no document. -/
  | malformed
  /-- A scalar has the form of its kind, and yet no value. -/
  | valueless
  /-- A number is out of all range. -/
  | tooGreat
  /-- A scalar is not among the words of the kind its tag names. -/
  | unknownWord
  /-- A scalar that has to hold something is empty. -/
  | emptyScalar
  /-- A scalar has not the form of the kind its tag names. -/
  | formless
  /-- What has to be a scalar is none. -/
  | notScalar
  /-- Nodes are nested too deeply. -/
  | tooDeep
deriving DecidableEq, Repr

end TemplateBundle.Yaml
