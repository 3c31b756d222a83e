import TemplateBundle.Task

/-!
Contract: several tasks as one build.

Owns: the tasks run together, each to its end, and the failure that is reported: the first
in the order of the tasks.
-/

namespace TemplateBundle.Build

/-- The failures among some outcomes, in order. -/
def failures {α : Type} (outcomes : List (Except Failure α)) : List Failure :=
  outcomes.filterMap fun outcome =>
    match outcome with
    | .ok _ => none
    | .error failure => some failure

/-- The values among some outcomes, in order. -/
def successes {α : Type} (outcomes : List (Except Failure α)) : List α :=
  outcomes.filterMap fun outcome =>
    match outcome with
    | .ok value => some value
    | .error _ => none

/-- The outcome of a build from those of its tasks: all reports, or the first failure. -/
def outcome {α : Type} (outcomes : List (Except Failure α)) : Except Failure (List α) :=
  match failures outcomes with
  | [] => .ok (successes outcomes)
  | failure :: _ => .error failure

/-- Runs every task, in the interleaving that a schedule says. -/
def run (environment : Environment) (schedule : List Nat) (tasks : List Options) :
    Program (Except Failure (List Report)) := do
  Program.log .info ("Running " ++ toString tasks.length ++ " precompile task(s)")
  let outcomes ← Program.interleave schedule (tasks.map (Task.run environment))
  let failed := failures outcomes
  if 1 < failed.length then
    Program.log .error (toString failed.length ++ " of " ++ toString tasks.length ++
      " precompile tasks failed")
  pure (outcome outcomes)

end TemplateBundle.Build
