import TemplateBundle.Proofs.Bridge
import TemplateBundle.Proofs.Task.Causes

/-!
Contract: a task whose compiler runs as a process of its own.

Owns: the compiler that a bridge is, given how its processes end; how it breaks, which is more than
a compiler should; and the law that a task with this compiler skips what is refused, and fails
because the compiler cannot be used, because it breaks, or for a cause that is there with any
compiler.
-/

namespace TemplateBundle

/-- The value has a length. -/
def Value.hasLength : Value → Bool
  | .text _ => true
  | .list _ => true
  | .map _ => true
  | _ => false

/-- A compiler that answers everything. -/
def Compiler.steady : Compiler where
  available := .ok ()
  parse := .ok
  precompile := fun _ _ => .ok ""

/-- How the processes of a bridge end, one for each request. -/
structure Processes where
  parsing : Value → ProcessEnd
  compiling : Value → Value → ProcessEnd

namespace Bridge

variable {bridge : Bridge} {processes : Processes} {tree : FileTree} {wrapped : Bool}
  {failure : Failure}

/-- The length of a value that has none. -/
def lengthless (value : Value) : Failure :=
  .mishap .wrongType ("object of type " ++ Text.quoted value.kindName ++ " has no len()")

/-- A text with parts that are no characters cannot be written. -/
def unencodable : Failure := .mishap .unencodable "surrogates not allowed"

/-- The compiled part of an answer as a task shows it. A text that cannot be written ends the task
at its template, and leaves the output file as it was. Where no call is put around the part, its
length is asked for as it stands. -/
def compiledText (wrapped : Bool) (compiled : Value.Document) : Except Failure String :=
  if compiled.isStray then .error unencodable
  else if wrapped || compiled.value.hasLength then .ok compiled.value.plainForm
  else .error (lengthless compiled.value)

/-- The compiler that a bridge is. -/
def compiler (bridge : Bridge) (processes : Processes) (tree : FileTree) (wrapped : Bool) :
    Compiler where
  available := bridge.available tree
  parse source :=
    (bridge.parse source (processes.parsing source)).answer.map Value.Document.value
  precompile template settings :=
    (bridge.precompile template settings (processes.compiling template settings)).answer.bind
      (compiledText wrapped)

/-- How the compiler that a bridge is breaks: a request escapes, what is compiled is a text that
cannot be written, or it has no length where one is asked for. -/
inductive Breaks (bridge : Bridge) (processes : Processes) (wrapped : Bool) : Failure → Prop
  | parse {failure : Failure} (source : Value) :
      bridge.Escapes (bridge.parseRequest source) "ast" (processes.parsing source) failure →
      Breaks bridge processes wrapped failure
  | precompile {failure : Failure} (template settings : Value) :
      bridge.Escapes (bridge.precompileRequest template settings) "compiled"
        (processes.compiling template settings) failure →
      Breaks bridge processes wrapped failure
  | stray (template settings : Value) (compiled : Value.Document) :
      (bridge.precompile template settings (processes.compiling template settings)).answer =
        .ok compiled →
      compiled.isStray = true → Breaks bridge processes wrapped unencodable
  | lengthless (template settings : Value) (compiled : Value.Document) :
      (bridge.precompile template settings (processes.compiling template settings)).answer =
        .ok compiled →
      wrapped = false → compiled.value.hasLength = false →
      Breaks bridge processes wrapped (lengthless compiled.value)

theorem compiledText_fails_iff {compiled : Value.Document} :
    compiledText wrapped compiled = .error failure ↔
      (compiled.isStray = true ∧ failure = unencodable) ∨
        (wrapped = false ∧ compiled.value.hasLength = false ∧
          failure = lengthless compiled.value) := by
  unfold compiledText
  by_cases isStray : compiled.isStray = true
  · -- What has a stray part is a text, and has a length.
    have hasLength : compiled.value.hasLength = true := by
      cases compiled with
      | text points => rfl
      | _ => simp [Value.Document.isStray] at isStray
    simp [isStray, hasLength, eq_comm]
  · cases wrapped <;> cases compiled.value.hasLength <;> simp [isStray, eq_comm]

theorem compiler_unavailable
    (fails : (bridge.compiler processes tree wrapped).available = .error failure) :
    ∃ text, failure = .compilerUnavailable text := by
  change bridge.available tree = .error failure at fails
  unfold available at fails
  split at fails
  · simp at fails
  · exact ⟨_, (Except.error.inj fails).symm⟩

/-- The compiler that a bridge is fails otherwise than a compiler does exactly if it breaks. -/
theorem compiler_fails_iff :
    (bridge.compiler processes tree wrapped).Fails failure ∧ ¬ failure.IsOfCompiler ↔
      bridge.Breaks processes wrapped failure := by
  have parses (source : Value) :
      (bridge.compiler processes tree wrapped).parse source = .error failure ↔
        (bridge.parse source (processes.parsing source)).answer = .error failure := by
    change Except.map _ (bridge.parse source (processes.parsing source)).answer = _ ↔ _
    cases (bridge.parse source (processes.parsing source)).answer <;> simp [Except.map]
  have compiles (template settings : Value) :
      (bridge.compiler processes tree wrapped).precompile template settings =
        (bridge.precompile template settings (processes.compiling template settings)).answer.bind
          (compiledText wrapped) := rfl
  constructor
  · rintro ⟨⟨source, fails⟩ | ⟨template, settings, fails⟩, other⟩
    · exact .parse source (exchange_escapes_iff.mp ⟨(parses source).mp fails, other⟩)
    · rw [compiles] at fails
      cases answers : (bridge.precompile template settings
          (processes.compiling template settings)).answer with
      | error fault =>
          simp only [answers, Except.bind, Except.error.injEq] at fails
          subst fails
          exact .precompile template settings (exchange_escapes_iff.mp ⟨answers, other⟩)
      | ok compiled =>
          simp only [answers, Except.bind] at fails
          rcases compiledText_fails_iff.mp fails with ⟨isStray, rfl⟩ | ⟨bare, short, rfl⟩
          · exact .stray template settings compiled answers isStray
          · exact .lengthless template settings compiled answers bare short
  · intro breaks
    cases breaks with
    | parse source escapes =>
        obtain ⟨fails, other⟩ := exchange_escapes_iff.mpr escapes
        exact ⟨.parse source ((parses source).mpr fails), other⟩
    | precompile template settings escapes =>
        obtain ⟨fails, other⟩ := exchange_escapes_iff.mpr escapes
        refine ⟨.precompile template settings ?_, other⟩
        rw [compiles]
        exact congrArg (Except.bind · _) fails
    | stray template settings compiled answers isStray =>
        refine ⟨.precompile template settings ?_, id⟩
        rw [compiles, answers]
        exact compiledText_fails_iff.mpr (.inl ⟨isStray, rfl⟩)
    | lengthless template settings compiled answers bare short =>
        refine ⟨.precompile template settings ?_, id⟩
        rw [compiles, answers]
        exact compiledText_fails_iff.mpr (.inr ⟨bare, short, rfl⟩)

end Bridge

namespace Task

variable {environment : Environment} {options : Options} {tree : FileTree} {template : Template}
  {failure : Failure} {call : Callable → List Value → Except Failure Value} {bridge : Bridge}
  {processes : Processes}

/-- A cause is one of the compiler, or it is there with any compiler. -/
theorem Cause.elsewhere (cause : Cause environment options failure) :
    environment.compiler.available = .error failure ∨
      (environment.compiler.Fails failure ∧ ∀ text path, failure ≠ .template text path) ∨
      Cause { environment with compiler := .steady } options failure := by
  cases cause with
  | unavailable refuses => exact .inl refuses
  | compiler fails noRefusal => exact .inr (.inl ⟨fails, noRefusal⟩)
  | outputDirectory fault => exact .inr (.inr (.outputDirectory fault))
  | write fault => exact .inr (.inr (.write fault))
  | inputDirectory fault => exact .inr (.inr (.inputDirectory fault))
  | hook function arguments member fails =>
      exact .inr (.inr (.hook function arguments member fails))
  | settings fails => exact .inr (.inr (.settings fails))
  | name name fails => exact .inr (.inr (.name name fails))
  | namespaceOf file fails => exact .inr (.inr (.namespaceOf file fails))
  | dependencies name ast compiled fails =>
      exact .inr (.inr (.dependencies name ast compiled fails))

theorem Cause.of_bridge {base : FileTree} {wrapped : Bool}
    (cause : Cause ⟨call, bridge.compiler processes base wrapped⟩ options failure) :
    (∃ text, failure = .compilerUnavailable text) ∨ bridge.Breaks processes wrapped failure ∨
      Cause ⟨call, .steady⟩ options failure := by
  rcases cause.elsewhere with refuses | ⟨fails, noRefusal⟩ | other
  · exact .inl (Bridge.compiler_unavailable refuses)
  · by_cases isOfCompiler : failure.IsOfCompiler
    · cases failure with
      | template text path => exact absurd rfl (noRefusal text path)
      | compilerUnavailable text => exact .inl ⟨text, rfl⟩
      | _ => exact isOfCompiler.elim
    · exact .inr (.inl (Bridge.compiler_fails_iff.mp ⟨fails, isOfCompiler⟩))
  · exact .inr (.inr other)

/-- A template that the compiler refuses is skipped. -/
theorem attempt_refused {content : ByteArray} {source text : String} {path : Option String}
    {given : Value} (bytes : tree.read template.path = .ok content)
    (decoded : Text.decodeUtf8? content = some source)
    (hands : Compilation.content environment options source template.file = .ok given)
    (refuses : Compilation.staged environment options (wantsTree options) given =
      .error (.template text path)) :
    attempt environment options tree template = .ok none := by
  unfold attempt
  simp only [bytes, decoded]
  rw [Compilation.compile_yields environment options (wantsTree options) source template.file []]
  simp [Compilation.outcome, hands, refuses, Except.bind, Except.mapError,
    Compilation.nameTemplate]

/-- A request to a bridge fails otherwise than by a failure of a compiler exactly if it escapes, and
the compiler that the bridge is, exactly if it breaks. A task that has it for its compiler skips a
template that is refused, and fails, whatever steps it is refused, because the compiler cannot be
used, because it breaks, or for a cause that it has with any compiler. -/
theorem run_with_bridge (bridge : Bridge) (processes : Processes) (base : FileTree)
    (call : Callable → List Value → Except Failure Value) (options : Options) :
    let environment : Environment := ⟨call, bridge.compiler processes base options.wrapped⟩
    (∀ source ended failure,
      (bridge.parse source ended).answer = .error failure ∧ ¬ failure.IsOfCompiler ↔
        bridge.Escapes (bridge.parseRequest source) "ast" ended failure) ∧
    (∀ template settings ended failure,
      (bridge.precompile template settings ended).answer = .error failure ∧
          ¬ failure.IsOfCompiler ↔
        bridge.Escapes (bridge.precompileRequest template settings) "compiled" ended failure) ∧
    (∀ failure, environment.compiler.Fails failure ∧ ¬ failure.IsOfCompiler ↔
      bridge.Breaks processes options.wrapped failure) ∧
    (∀ tree template content source given text path,
      tree.read template.path = .ok content → Text.decodeUtf8? content = some source →
      Compilation.content environment options source template.file = .ok given →
      Compilation.staged environment options (wantsTree options) given =
        .error (.template text path) →
      attempt environment options tree template = .ok none) ∧
    ∀ tree failure left, (run environment options).MayEnd tree (.error failure) left →
      (∃ text, failure = .compilerUnavailable text) ∨
        bridge.Breaks processes options.wrapped failure ∨
        Cause ⟨call, .steady⟩ options failure := by
  intro environment
  refine ⟨fun _ _ _ => Bridge.exchange_escapes_iff, fun _ _ _ _ => Bridge.exchange_escapes_iff,
    fun _ => Bridge.compiler_fails_iff, ?_, ?_⟩
  · intro tree template content source given text path bytes decoded hands refuses
    exact attempt_refused bytes decoded hands refuses
  · intro tree failure left fails
    exact (cause_of_failure fails).of_bridge

/-- A bridge whose program is in a directory. -/
def nodeBridge : Bridge := { Bridge.standard with binary := "bin/node" }

/-- The directory of that program. -/
def nodeDirectory : FileTree where
  entries := [(["bin"], .directory), (["bin", "node"], .file ByteArray.empty true)]
  home := []

/-- Processes of which none comes to its end in time. -/
def lingering : Processes := ⟨fun _ => .timedOut, fun _ _ => .timedOut⟩

/-- Processes that end well, and write the same for every request. -/
def repeating (output : String) : Processes :=
  ⟨fun _ => .finished 0 output.toUTF8 ByteArray.empty,
    fun _ _ => .finished 0 output.toUTF8 ByteArray.empty⟩

/-- What a task depends on besides the files, where the bridge is its compiler. -/
def bridged (processes : Processes) : Environment :=
  ⟨echo.call, nodeBridge.compiler processes nodeDirectory threeOptions.wrapped⟩

theorem run_with_bridge_of_three_templates :
    nodeBridge.Escapes (nodeBridge.parseRequest (.text "x")) "ast"
        (.finished 0 "{}".toUTF8 ByteArray.empty) (.mishap .missingKey "'ast'") ∧
      attempt (bridged lingering) threeOptions threeTemplates
        ⟨⟨0, ["t", "b.hbs"]⟩, "b.hbs", "b", false⟩ = .ok none ∧
      ∃ failure, ((run (bridged (repeating "{}")) threeOptions).run threeTemplates).value =
          .error failure ∧
        (nodeBridge.Breaks (repeating "{}") threeOptions.wrapped failure ∨
          Cause ⟨echo.call, .steady⟩ threeOptions failure) := by
  obtain ⟨parses, _, _, skips, _⟩ :=
    run_with_bridge nodeBridge lingering nodeDirectory echo.call threeOptions
  obtain ⟨_, _, _, _, ends⟩ :=
    run_with_bridge nodeBridge (repeating "{}") nodeDirectory echo.call threeOptions
  have fails : ((run (bridged (repeating "{}")) threeOptions).run threeTemplates).value =
      .error (.mishap .missingKey "'compiled'") := error_of_mishap? (by decide +kernel)
  refine ⟨(parses _ _ _).mp ⟨error_of_mishap? (by decide +kernel), id⟩, ?_, _, fails, ?_⟩
  · exact skips threeTemplates ⟨⟨0, ["t", "b.hbs"]⟩, "b.hbs", "b", false⟩ "B".toUTF8 "B"
      (.text "B") "Handlebars compiler timed out after 60s" none (by rfl) (by decide +kernel)
      (by rfl) (by rfl)
  · have ended := Program.mayEnd_run (run (bridged (repeating "{}")) threeOptions) threeTemplates
    rw [fails] at ended
    rcases ends _ _ _ ended with ⟨text, impossible⟩ | caused
    · simp at impossible
    · exact caused

/-- The failures of no compiler: of an answer that is no map, of a task whose processes answer
nothing else, and of one whose processes answer a text that cannot be written. -/
theorem run_with_bridge_breaks :
    (∃ failure, (nodeBridge.precompile (.text "x") (.map [])
        (.finished 0 "[]".toUTF8 ByteArray.empty)).answer = .error failure ∧
      ((run (bridged (repeating "[]")) threeOptions).run threeTemplates).value = .error failure ∧
      ¬ failure.IsOfCompiler ∧ failure.isExpected = false) ∧
    ((run (bridged (repeating "\x7b\"compiled\": \"\\ud800\"\x7d")) threeOptions).run
      threeTemplates).value = .error Bridge.unencodable := by
  refine ⟨⟨.mishap .missingAttribute "'list' object has no attribute 'get'",
    error_of_mishap? (by decide +kernel), error_of_mishap? (by decide +kernel), id, rfl⟩, ?_⟩
  exact error_of_mishap? (by decide +kernel)

end Task

end TemplateBundle
