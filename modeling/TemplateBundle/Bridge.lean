import TemplateBundle.Environment
import TemplateBundle.FileTree.Basic
import TemplateBundle.Text.Utf8
import TemplateBundle.Value.Reader

/-!
Contract: a template compiler that runs as a process of its own, one process a request.

Owns: the requests as documents, what every end of the process means, and whether the
process can be started.
-/

namespace TemplateBundle

/-- How the compiler's process is started and how long it may take, in seconds. -/
structure Bridge where
  binary : String
  module : String
  timeout : Decimal.Binary64

/-- The end of a process. -/
inductive ProcessEnd where
  /-- It could not be started; the system's number of the fault is given with it. -/
  | notStarted (number : Nat) (fault : FileFault)
  | timedOut
  | finished (status : Int) (output errors : ByteArray)

/-- One request and what came of it. -/
structure Exchange where
  /-- The document that was sent, if the time allowed it. -/
  sent : Option String
  /-- How often the process was killed. -/
  killed : Nat
  answer : Except Failure Value.Document

namespace Bridge

/-- The process in use where no setting says otherwise. -/
def standard : Bridge := ⟨"node", "handlebars", Decimal.Binary64.ofInt 60⟩

/-- The request for a syntax tree. -/
def parseRequest (bridge : Bridge) (source : Value) : Entries :=
  [(.text "op", .text "parse"), (.text "source", source), (.text "module", .text bridge.module)]

/-- The request for a compiled text. A template that is no text is a syntax tree. -/
def precompileRequest (bridge : Bridge) (template options : Value) : Entries :=
  let part := match template with
    | .text _ => "source"
    | _ => "ast"
  [(.text "op", .text "precompile"), (.text "options", options), (.text part, template),
    (.text "module", .text bridge.module)]

/-- The process cannot be started. -/
def startFailure (bridge : Bridge) (number : Nat) (fault : FileFault) : Failure :=
  let binary := Text.quoted bridge.binary
  .compilerUnavailable ("Cannot start " ++ binary ++ ": [Errno " ++ toString number ++ "] " ++
    fault.reason ++ ": " ++ binary)

/-- The process took too long. -/
def timeoutFailure (bridge : Bridge) : Failure :=
  .template ("Handlebars compiler timed out after " ++ Decimal.renderWhole bridge.timeout ++ "s")
    none

/-- The process ended with a status other than zero. -/
def statusFailure (status : Int) (errors : ByteArray) : Failure :=
  .compilerUnavailable ("Handlebars bridge failed (exit " ++ toString status ++ "): " ++
    Text.strip (Text.decodeUtf8Replacing errors))

/-- An attribute of a value that is no map. -/
def noMember (value : Value) : Failure :=
  .mishap .missingAttribute
    (Text.quoted value.kindName ++ " object has no attribute 'get'")

/-- What a reported error says. Only a map can report one. -/
def reportedFailure : Value → Failure
  | .map entries =>
      let part (name : String) := ((Entries.getText? entries name).getD .null).plainForm
      .template (part "name" ++ ": " ++ part "message") none
  | other => noMember other

/-- What the members of a response report as an error: nothing is null. -/
def reported (members : List (List Value.Point × Value.Document)) : Value :=
  ((Value.Document.member? members "error").map Value.Document.value).getD .null

/-- The part of a response that was asked for. -/
def answerOf (part : String) : Value.Document → Except Failure Value.Document
  | .map members =>
      if (reported members).truthy then .error (reportedFailure (reported members))
      else
        match Value.Document.member? members part with
        | some found => .ok found
        | none => .error (.mishap .missingKey (Text.quoted part))
  | other => .error (noMember other.value)

/-- The failure for an output that is no document, or one that is not read. -/
def unreadable : Value.DocumentFault → Failure
  | .malformed => .compilerUnavailable "Handlebars bridge returned invalid JSON"
  | .longNumeral => .mishap .wrongValue "a number has too many digits"
  | .tooDeep => .mishap .tooDeep "lists and maps are nested too deeply"

/-- What the output of a process says. -/
def readOutput (part : String) (output : ByteArray) : Except Failure Value.Document :=
  match Text.decodeUtf8? output with
  | none => .error (.mishap .undecodable "invalid UTF-8")
  | some text =>
      match Value.readDocument text with
      | .ok response => answerOf part response
      | .error fault => .error (unreadable fault)

/-- What the end of a process says, after the request was sent. -/
def answer (bridge : Bridge) (part : String) : ProcessEnd → Except Failure Value.Document
  | .notStarted number fault => .error (Failure.ofFile (bridge.startFailure number) fault)
  | .timedOut => .error bridge.timeoutFailure
  | .finished status output errors =>
      if status ≠ 0 then .error (statusFailure status errors) else readOutput part output

/-- One request. Without any time for it, it is not sent at all. -/
def exchange (bridge : Bridge) (request : Entries) (part : String) (ended : ProcessEnd) :
    Exchange :=
  match ended with
  | .notStarted _ _ => ⟨none, 0, bridge.answer part ended⟩
  | _ =>
      match (Value.map request).writingFault? Value.depthLimit with
      | some fault => ⟨none, 0, .error (.ofWriting fault)⟩
      | none =>
          if bridge.timeout.notAboveZero then ⟨none, 1, .error bridge.timeoutFailure⟩
          else
            let sent := some ((Value.map request).document .ascii)
            match ended with
            | .timedOut => ⟨sent, 1, bridge.answer part ended⟩
            | _ => ⟨sent, 0, bridge.answer part ended⟩

/-- Asks for a syntax tree. -/
def parse (bridge : Bridge) (source : Value) (ended : ProcessEnd) : Exchange :=
  bridge.exchange (bridge.parseRequest source) "ast" ended

/-- Asks for a compiled text. -/
def precompile (bridge : Bridge) (template options : Value) (ended : ProcessEnd) : Exchange :=
  bridge.exchange (bridge.precompileRequest template options) "compiled" ended

/-- The name says in which directory the program is. -/
def namesDirectory (binary : String) : Bool := binary.toList.contains '/'

/-- The program that a name leads to, if it can be started. A name that says a directory is
walked as it stands; no program is known by its name alone. -/
def program? (tree : FileTree) (binary : String) : Except FileFault Unit :=
  if namesDirectory binary then
    match tree.findNodeAsWritten binary with
    | .ok (_, .file _ executable) => if executable then .ok () else .error .denied
    | .ok _ => .error .denied
    | .error fault => .error fault
  else if binary = "" ∨ binary = "." ∨ binary = ".." then .error .denied
  else if binary.toList.contains '\x00' then .error .unusablePath
  else .error .missing

/-- The program is not there. -/
def notFound (bridge : Bridge) : Failure :=
  .compilerUnavailable ("Node.js executable not found: " ++ Text.quoted bridge.binary ++
    " (set HBSBUNDLE_NODE_BINARY)")

/-- The compiler can be used if its program can be started. -/
def available (bridge : Bridge) (tree : FileTree) : Except Failure Unit :=
  match program? tree bridge.binary with
  | .ok () => .ok ()
  | .error _ => .error bridge.notFound

end Bridge

end TemplateBundle
