import TemplateBundle.Failure

/-!
Contract: what a task depends on besides the files: the functions that its options name,
and the template compiler.

Owns: the two capabilities. Both answer by their arguments alone.
-/

namespace TemplateBundle

/-- A compiler of templates. -/
structure Compiler where
  /-- The compiler can be used. -/
  available : Except Failure Unit
  /-- The syntax tree of a source. -/
  parse : Value → Except Failure Value
  /-- The compiled text of a source or a syntax tree, given the compiler's options. -/
  precompile : Value → Value → Except Failure String

/-- What a task depends on besides the files. -/
structure Environment where
  /-- The answer of a function. -/
  call : Callable → List Value → Except Failure Value
  compiler : Compiler

end TemplateBundle
