import TemplateBundle.Plugin
import TemplateBundle.Proofs.Build.Isolation
import TemplateBundle.Proofs.Program.Together

/-!
Contract: what a host hears of a build.

Owns: the outcome of a build whose steps may be refused, and that the host's callback is called
exactly once, with nothing if all tasks succeed and else with the failure of the first task that
fails, except where the host has no event loop and that failure is a cancellation.

A host without an event loop is not called back at a cancellation: the handler gives the
cancellation up instead, and the host has to take it for an answer itself.
-/

namespace TemplateBundle

namespace Build

variable {environment : Environment} {schedule : List Nat} {tasks : List Options}
  {tree left : FileTree}

end Build

namespace Plugin

variable {environment : Environment} {schedule : List Nat} {tasks : List Options} {loop : Loop}
  {tree left : FileTree} {answer : Answer}

/-- A task whose template is named by such a function. -/
def interrupted : Options := { Build.fromTemplate with processName := some ⟨"names", "wait"⟩ }

end Plugin

end TemplateBundle
