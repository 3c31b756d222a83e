import TemplateBundle.Bridge

/-!
Contract: the failures of a compiler that runs as a process of its own.

Owns: which failures are those of a compiler, the answers of a process that are neither values nor
such failures, and the law that says exactly when a request comes to one of them.

Does not own: what a task makes of an answer (`Proofs.Task.Bridge`).
-/

namespace TemplateBundle

/-- The failure is one of a compiler: it refuses a template, or it cannot be used. -/
def Failure.IsOfCompiler : Failure → Prop
  | .template _ _ => True
  | .compilerUnavailable _ => True
  | _ => False

namespace Bridge

variable {bridge : Bridge} {request : Entries} {part : String} {output : ByteArray}
  {response : Value.Document} {ended : ProcessEnd} {failure : Failure}

/-- A response with which nothing can be done: it is no map, it reports an error that is no map, or
it reports none and has not the part that was asked for. -/
inductive BrokenResponse (part : String) : Value.Document → Failure → Prop
  | shapeless (response : Value.Document) : (∀ members, response ≠ .map members) →
      BrokenResponse part response (noMember response.value)
  | shapelessError (members : List (List Value.Point × Value.Document)) (error : Value.Document) :
      Value.Document.member? members "error" = some error → error.value.truthy = true →
      (∀ inner, error ≠ .map inner) → BrokenResponse part (.map members) (noMember error.value)
  | withoutPart (members : List (List Value.Point × Value.Document)) :
      (reported members).truthy = false → Value.Document.member? members part = none →
      BrokenResponse part (.map members) (.mishap .missingKey (Text.quoted part))

/-- An output with which nothing can be done: it is no text, its text is a document that is not
read, or its response is broken. -/
inductive BrokenOutput (part : String) (output : ByteArray) : Failure → Prop
  | undecodable : Text.decodeUtf8? output = none →
      BrokenOutput part output (.mishap .undecodable "invalid UTF-8")
  | unread (text : String) (fault : Value.DocumentFault) :
      Text.decodeUtf8? output = some text → Value.readDocument text = .error fault →
      fault ≠ .malformed → BrokenOutput part output (unreadable fault)
  | response {failure : Failure} (text : String) (response : Value.Document) :
      Text.decodeUtf8? output = some text → Value.readDocument text = .ok response →
      BrokenResponse part response failure → BrokenOutput part output failure

/-- How a request fails without a failure of the compiler: the name of the program is one that no
file can have, or a process was started and the request has no document, or it ended well with a
broken output. -/
inductive Escapes (bridge : Bridge) (request : Entries) (part : String) :
    ProcessEnd → Failure → Prop
  | unusable (number : Nat) :
      Escapes bridge request part (.notStarted number .unusablePath)
        (.mishap .wrongValue FileFault.unusablePath.reason)
  | unwritten (ended : ProcessEnd) (fault : Value.WritingFault) :
      (∀ number fault, ended ≠ .notStarted number fault) →
      (Value.map request).writingFault? Value.depthLimit = some fault →
      Escapes bridge request part ended (.ofWriting fault)
  | output {failure : Failure} (output errors : ByteArray) :
      (Value.map request).writingFault? Value.depthLimit = none →
      bridge.timeout.notAboveZero = false → BrokenOutput part output failure →
      Escapes bridge request part (.finished 0 output errors) failure

/-- A value that has no document is no failure of a compiler. -/
theorem not_isOfCompiler_ofWriting (fault : Value.WritingFault) :
    ¬ (Failure.ofWriting fault).IsOfCompiler := by
  cases fault <;> exact id

/-- What is no map has no members that could say what was wrong. -/
theorem reportedFailure_of_shapeless (shapeless : ∀ members, response ≠ .map members) :
    reportedFailure response.value = noMember response.value := by
  cases response with
  | map members => exact absurd rfl (shapeless members)
  | _ => rfl

theorem answerOf_of_shapeless (shapeless : ∀ members, response ≠ .map members) :
    answerOf part response = .error (noMember response.value) := by
  cases response with
  | map members => exact absurd rfl (shapeless members)
  | _ => rfl

theorem answerOf_breaks_iff :
    answerOf part response = .error failure ∧ ¬ failure.IsOfCompiler ↔
      BrokenResponse part response failure := by
  constructor
  · rintro ⟨fails, other⟩
    by_cases isMap : ∃ members, response = .map members
    · obtain ⟨members, rfl⟩ := isMap
      unfold answerOf at fails
      dsimp only at fails
      by_cases reports : (reported members).truthy = true
      · rw [if_pos reports] at fails
        obtain rfl := Except.error.inj fails
        cases found : Value.Document.member? members "error" with
        | none => simp [reported, found, Value.truthy] at reports
        | some error =>
            have same : reported members = error.value := by simp [reported, found]
            rw [same] at reports other ⊢
            by_cases errorIsMap : ∃ inner, error = .map inner
            · obtain ⟨inner, rfl⟩ := errorIsMap
              exact absurd trivial other
            · have shapeless : ∀ inner, error ≠ .map inner :=
                fun inner isMap => errorIsMap ⟨inner, isMap⟩
              rw [reportedFailure_of_shapeless shapeless]
              exact .shapelessError members error found reports shapeless
      · rw [if_neg reports] at fails
        cases found : Value.Document.member? members part with
        | some document => simp [found] at fails
        | none =>
            simp only [found, Except.error.injEq] at fails
            exact fails ▸ .withoutPart members (by simpa using reports) found
    · have shapeless : ∀ members, response ≠ .map members :=
        fun members same => isMap ⟨members, same⟩
      rw [answerOf_of_shapeless shapeless] at fails
      exact Except.error.inj fails ▸ .shapeless response shapeless
  · intro broken
    cases broken with
    | shapeless _ shapeless => exact ⟨answerOf_of_shapeless shapeless, id⟩
    | shapelessError members error found reports shapeless =>
        have same : reported members = error.value := by simp [reported, found]
        refine ⟨?_, id⟩
        unfold answerOf
        dsimp only
        rw [same, if_pos reports, reportedFailure_of_shapeless shapeless]
    | withoutPart members silent missing =>
        refine ⟨?_, id⟩
        simp [answerOf, silent, missing]

theorem readOutput_breaks_iff :
    readOutput part output = .error failure ∧ ¬ failure.IsOfCompiler ↔
      BrokenOutput part output failure := by
  constructor
  · rintro ⟨fails, other⟩
    unfold readOutput at fails
    cases decoded : Text.decodeUtf8? output with
    | none =>
        simp only [decoded, Except.error.injEq] at fails
        exact fails ▸ .undecodable decoded
    | some text =>
        simp only [decoded] at fails
        cases reads : Value.readDocument text with
        | error fault =>
            simp only [reads, Except.error.injEq] at fails
            subst fails
            refine .unread text fault decoded reads ?_
            rintro rfl
            exact other trivial
        | ok response =>
            simp only [reads] at fails
            exact .response text response decoded reads (answerOf_breaks_iff.mp ⟨fails, other⟩)
  · intro broken
    cases broken with
    | undecodable decoded => exact ⟨by simp [readOutput, decoded], id⟩
    | unread text fault decoded reads other =>
        refine ⟨by simp [readOutput, decoded, reads], ?_⟩
        cases fault with
        | malformed => exact absurd rfl other
        | _ => exact id
    | response text response decoded reads broken =>
        obtain ⟨fails, other⟩ := answerOf_breaks_iff.mpr broken
        exact ⟨by simp [readOutput, decoded, reads, fails], other⟩

/-- What is answered once the process was started. -/
theorem exchange_started (started : ∀ number fault, ended ≠ .notStarted number fault) :
    (bridge.exchange request part ended).answer =
      match (Value.map request).writingFault? Value.depthLimit with
      | some fault => .error (.ofWriting fault)
      | none =>
          if bridge.timeout.notAboveZero = true then .error bridge.timeoutFailure
          else bridge.answer part ended := by
  unfold exchange
  cases ended with
  | notStarted number fault => exact absurd rfl (started number fault)
  | timedOut | finished status output errors =>
      cases (Value.map request).writingFault? Value.depthLimit with
      | some fault => rfl
      | none => cases bridge.timeout.notAboveZero <;> rfl

theorem answer_breaks_iff :
    bridge.answer part ended = .error failure ∧ ¬ failure.IsOfCompiler ↔
      (∃ number, ended = .notStarted number .unusablePath ∧
        failure = .mishap .wrongValue FileFault.unusablePath.reason) ∨
      ∃ output errors, ended = .finished 0 output errors ∧ BrokenOutput part output failure := by
  constructor
  · rintro ⟨fails, other⟩
    cases ended with
    | notStarted number fault =>
        simp only [answer, Failure.ofFile, Except.error.injEq] at fails
        split at fails
        · rename_i unusable
          subst unusable
          exact .inl ⟨number, rfl, fails.symm⟩
        · exact absurd (fails ▸ trivial) other
    | timedOut => exact absurd (Except.error.inj fails ▸ trivial) other
    | finished status output errors =>
        by_cases well : status = 0
        · subst well
          exact .inr ⟨output, errors, rfl, readOutput_breaks_iff.mp ⟨fails, other⟩⟩
        · simp only [answer, ne_eq, well, not_false_eq_true, ↓reduceIte, Except.error.injEq]
            at fails
          exact absurd (fails ▸ trivial) other
  · rintro (⟨number, rfl, rfl⟩ | ⟨output, errors, rfl, broken⟩)
    · exact ⟨rfl, id⟩
    · exact readOutput_breaks_iff.mpr broken

/-- A request fails otherwise than by a failure of the compiler exactly if it escapes. -/
theorem exchange_escapes_iff :
    (bridge.exchange request part ended).answer = .error failure ∧ ¬ failure.IsOfCompiler ↔
      bridge.Escapes request part ended failure := by
  constructor
  · rintro ⟨fails, other⟩
    by_cases starts : ∃ number fault, ended = .notStarted number fault
    · obtain ⟨number, fault, rfl⟩ := starts
      have answers : bridge.answer part (.notStarted number fault) = .error failure := fails
      rcases answer_breaks_iff.mp ⟨answers, other⟩ with ⟨_, same, rfl⟩ | ⟨_, _, impossible, _⟩
      · obtain ⟨rfl, rfl⟩ := ProcessEnd.notStarted.inj same
        exact .unusable number
      · simp at impossible
    · have started : ∀ number fault, ended ≠ .notStarted number fault :=
        fun number fault same => starts ⟨number, fault, same⟩
      rw [exchange_started started] at fails
      cases written : (Value.map request).writingFault? Value.depthLimit with
      | some fault =>
          simp only [written, Except.error.injEq] at fails
          exact fails ▸ .unwritten ended fault started written
      | none =>
          simp only [written] at fails
          split at fails
          · exact absurd (Except.error.inj fails ▸ trivial) other
          · rename_i timely
            rcases answer_breaks_iff.mp ⟨fails, other⟩ with
              ⟨_, same, _⟩ | ⟨output, errors, rfl, broken⟩
            · exact absurd same (started _ _)
            · exact .output output errors written (by simpa using timely) broken
  · intro escapes
    cases escapes with
    | unusable number => exact ⟨rfl, id⟩
    | unwritten _ fault started unwritten =>
        rw [exchange_started started, unwritten]
        exact ⟨rfl, not_isOfCompiler_ofWriting fault⟩
    | output output errors written timely broken =>
        rw [exchange_started (by simp), written]
        dsimp only
        rw [if_neg (by simp [timely])]
        exact answer_breaks_iff.mpr (.inr ⟨output, errors, rfl, broken⟩)

end Bridge

end TemplateBundle
