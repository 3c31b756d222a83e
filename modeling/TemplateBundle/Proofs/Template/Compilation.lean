import TemplateBundle.Template.Compilation

/-!
Contract: what a template is compiled to.

Owns: the outcome of the stages and of a whole compilation, apart from what is told on the way, the
failures of a compiler, and compilers that give the same text with and without a syntax tree.
-/

namespace TemplateBundle

/-- A call of the compiler for a template fails. -/
inductive Compiler.Fails (compiler : Compiler) (failure : Failure) : Prop
  | parse (source : Value) : compiler.parse source = .error failure → Fails compiler failure
  | precompile (template settings : Value) :
      compiler.precompile template settings = .error failure → Fails compiler failure

/-- The compiler gives a source the same text by way of its syntax tree, and refuses what has none
for the same reason. -/
def Compiler.Agrees (compiler : Compiler) (source settings : Value) : Prop :=
  match compiler.parse source with
  | .error failure => compiler.precompile source settings = .error failure
  | .ok ast => ∃ text, compiler.precompile ast settings = .ok text ∧
      compiler.precompile source settings = .ok text

/-- The compiler agrees with itself on every source that a task hands over. -/
def Environment.AgreesOn (environment : Environment) (options : Options) : Prop :=
  ∀ text file source, Compilation.content environment options text file = .ok source →
    ∀ settings, environment.compiler.Agrees source settings

namespace Telling

variable {α β : Type} {work : Telling α} {following : α → Telling β}
  {outcome : Except Failure α} {next : α → Except Failure β}

/-- What the work comes to, whatever was told before. -/
def Yields (work : Telling α) (outcome : Except Failure α) : Prop :=
  ∀ events, (work.run events).1 = outcome

theorem yields_pure (value : α) : Yields (pure value) (.ok value) := fun _ => rfl

theorem yields_pass (outcome : Except Failure α) : Yields (pass outcome) outcome := fun _ => rfl

theorem Yields.bind (first : Yields work outcome)
    (second : ∀ value, Yields (following value) (next value)) :
    Yields (work >>= following) (outcome.bind next) := by
  intro events
  change (ExceptT.bindCont following (work.run events).1 (work.run events).2).1 = _
  rw [first events]
  cases outcome with
  | error failure => rfl
  | ok value => exact second value _

theorem Yields.told (event : Event) (yields : Yields work outcome) :
    Yields (tell event >>= fun _ => work) outcome :=
  fun events => yields (events ++ [event])

theorem Yields.adapt {change : Failure → Failure} (yields : Yields work outcome) :
    Yields (ExceptT.adapt change work) (outcome.mapError change) := by
  intro events
  rw [← yields events]
  rfl

end Telling

namespace Compilation

variable {environment : Environment} {options : Options} {source : Value}

/-- The syntax tree of a template, after the function for it. -/
def treeOf (environment : Environment) (options : Options) (parsed : Value) :
    Except Failure Value :=
  match options.processAst with
  | none => .ok parsed
  | some function => environment.call function [parsed]

/-- The compiled text of a syntax tree or of a source, with the tree if there is one. -/
def textOf (environment : Environment) (options : Options) (given ast : Value) :
    Except Failure (String × Value) :=
  (compilerOptions options).bind fun settings =>
    (environment.compiler.precompile given (.map settings)).bind fun body => .ok (body, ast)

/-- What the last stage fails for: the compiler, or the options for it. -/
theorem textOf_fails {given ast : Value} {failure : Failure}
    (fails : textOf environment options given ast = .error failure) :
    environment.compiler.Fails failure ∨ compilerOptions options = .error failure := by
  unfold textOf at fails
  cases merged : compilerOptions options with
  | error other =>
      simp only [merged, Except.bind, Except.error.injEq] at fails
      exact .inr (by rw [fails])
  | ok settings =>
      cases compiled : environment.compiler.precompile given (.map settings) with
      | error other =>
          simp only [merged, compiled, Except.bind, Except.error.injEq] at fails
          exact .inl (.precompile given (.map settings) (fails ▸ compiled))
      | ok body => simp [merged, compiled, Except.bind] at fails

/-- What the stages come to. -/
def staged (environment : Environment) (options : Options) (wantsTree : Bool) (source : Value) :
    Except Failure (String × Value) :=
  if wantsTree || options.processAst.isSome then
    (environment.compiler.parse source).bind fun parsed =>
      (treeOf environment options parsed).bind fun ast => textOf environment options ast ast
  else textOf environment options source .null

open Telling

theorem stages_yields (environment : Environment) (options : Options) (wantsTree : Bool)
    (source : Value) :
    Yields (stages environment options wantsTree source)
      (staged environment options wantsTree source) := by
  have compiles (given ast : Value) : Yields (do
      let settings ← pass (compilerOptions options)
      tell (.request (.precompile given (.map settings)))
      let body ← pass (environment.compiler.precompile given (.map settings))
      Pure.pure (body, ast)) (textOf environment options given ast) :=
    (yields_pass _).bind fun _ => .told _ ((yields_pass _).bind fun body =>
      yields_pure (body, ast))
  unfold stages staged
  by_cases parses : (wantsTree || options.processAst.isSome) = true
  · rw [if_pos parses, if_pos parses]
    refine .told _ ((yields_pass _).bind fun parsed => ?_)
    unfold treeOf
    cases options.processAst with
    | none => exact (yields_pure parsed).bind fun ast => compiles ast ast
    | some function => exact (yields_pass _).bind fun ast => compiles ast ast
  · rw [if_neg parses, if_neg parses]
    exact compiles source .null

/-- What a compilation comes to. -/
def outcome (environment : Environment) (options : Options) (wantsTree : Bool)
    (source file : String) : Except Failure Compiled :=
  (content environment options source file).bind fun given =>
    ((staged environment options wantsTree given).mapError (nameTemplate file)).bind fun found =>
      .ok ⟨expression options found.1, found.2⟩

theorem compile_yields (environment : Environment) (options : Options) (wantsTree : Bool)
    (source file : String) :
    Yields (compile environment options wantsTree source file)
      (outcome environment options wantsTree source file) := by
  refine (yields_pass _).bind fun given => ?_
  refine (stages_yields environment options wantsTree given).adapt.bind fun found => ?_
  exact .told _ (yields_pure _)

theorem outcome_body (environment : Environment) (options : Options) (wantsTree : Bool)
    (source file : String) :
    (outcome environment options wantsTree source file).map Compiled.body =
      (content environment options source file).bind fun given =>
        (((staged environment options wantsTree given).map Prod.fst).mapError
          (nameTemplate file)).map (expression options) := by
  unfold outcome
  cases content environment options source file with
  | error failure => rfl
  | ok given =>
      dsimp only [Except.bind]
      cases staged environment options wantsTree given <;> rfl

theorem textOf_text (environment : Environment) (options : Options) (given ast : Value) :
    (textOf environment options given ast).map Prod.fst =
      (compilerOptions options).bind fun settings =>
        environment.compiler.precompile given (.map settings) := by
  unfold textOf
  cases compilerOptions options with
  | error failure => rfl
  | ok settings =>
      change ((environment.compiler.precompile given (.map settings)).bind _).map _ =
        environment.compiler.precompile given (.map settings)
      cases environment.compiler.precompile given (.map settings) <;> rfl

/-- By way of its syntax tree or without it, a source that the compiler agrees with itself on has
the same text. A source without a syntax tree is refused as such if the options for the compiler
can be put together. -/
theorem staged_text (agrees : ∀ settings, environment.compiler.Agrees source settings)
    (merges : options.processAst = none → ∀ failure,
      environment.compiler.parse source = .error failure →
        ∃ settings, compilerOptions options = .ok settings) :
    (staged environment options true source).map Prod.fst =
      (staged environment options false source).map Prod.fst := by
  unfold staged
  cases processes : options.processAst with
  | some function => rfl
  | none =>
      change ((environment.compiler.parse source).bind _).map Prod.fst =
        (textOf environment options source .null).map Prod.fst
      rw [textOf_text]
      cases parsed : environment.compiler.parse source with
      | error failure =>
          obtain ⟨settings, merged⟩ := merges processes failure parsed
          have same := agrees (.map settings)
          unfold Compiler.Agrees at same
          rw [parsed] at same
          rw [merged]
          exact same.symm
      | ok ast =>
          have tree : treeOf environment options ast = .ok ast := by
            unfold treeOf
            rw [processes]
          change ((treeOf environment options ast).bind _).map Prod.fst = _
          rw [tree]
          change (textOf environment options ast ast).map Prod.fst = _
          rw [textOf_text]
          cases compilerOptions options with
          | error failure => rfl
          | ok settings =>
              have same := agrees (.map settings)
              unfold Compiler.Agrees at same
              rw [parsed] at same
              obtain ⟨body, fromTree, fromSource⟩ := same
              exact fromTree.trans fromSource.symm

end Compilation

end TemplateBundle
