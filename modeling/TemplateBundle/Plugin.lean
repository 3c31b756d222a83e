import TemplateBundle.Build

/-!
Contract: the build as a plugin of a host that announces its phases.

Owns: the phase that the plugin waits for, and what the host's callback is given, for a host
with an event loop and for one without.
-/

namespace TemplateBundle.Plugin

/-- The host's event loop when it announces the phase. -/
inductive Loop where
  /-- There is none: the build is done before the handler returns. -/
  | absent
  /-- The build is scheduled on it. -/
  | running
  /-- The build is scheduled on it and called off before it starts. -/
  | cancelling
deriving DecidableEq, Repr

/-- What the host sees of one announcement. -/
structure Answer where
  /-- The calls of the callback before the handler returned. -/
  before : Nat
  /-- What each call of the callback was given: nothing, or the failure. -/
  calls : List (Option Failure)
  /-- A failure that left the handler. -/
  escaped : Option Failure

/-- The phase that the plugin waits for. -/
def phase : String := "compile"

/-- Registers for the phase: the phases that were registered for. -/
def apply (tasks : List Options) : Program (List String) := do
  Program.log .info ("CompileHandlebars plugin is loading: " ++
    String.intercalate ", " (tasks.map Task.route))
  pure [phase]

/-- Tells a failure of the build. -/
def tellFailure (failure : Failure) : Program Unit :=
  Program.log .error ("Template precompilation failed: " ++ failure.message)

/-- Handles the announcement of the phase. -/
def announce (environment : Environment) (schedule : List Nat) (tasks : List Options) :
    Loop → Program Answer
  | .absent => do
      match ← Build.run environment schedule tasks with
      | .ok _ => pure ⟨1, [none], none⟩
      | .error .cancelled => pure ⟨0, [], some .cancelled⟩
      | .error failure => do
          tellFailure failure
          pure ⟨1, [some failure], none⟩
  | .running => do
      match ← Build.run environment schedule tasks with
      | .ok _ => pure ⟨0, [none], none⟩
      | .error .cancelled => pure ⟨0, [some .cancelled], none⟩
      | .error failure => do
          tellFailure failure
          pure ⟨0, [some failure], none⟩
  | .cancelling => pure ⟨0, [some .cancelled], none⟩

end TemplateBundle.Plugin
