import TemplateBundle.Options.Overrides
import TemplateBundle.OutputStream
import TemplateBundle.Yaml.Document

/-!
Contract: the tasks that a configuration file names.

Owns: the three forms of the file, which are one task, a list of tasks, and a mapping with
such a list under `tasks`; and how a file that has none of them is refused.
-/

namespace TemplateBundle.TaskFile

/-- The failure for a text that is refused as a document. -/
def refused (path : Path) : Yaml.Refusal → Failure
  | .malformed => .config (.invalidFile path)
  | .valueless => .mishap .wrongValue "a scalar has no value of its kind"
  | .unknownWord => .mishap .missingKey "a scalar is no word of its kind"
  | .emptyScalar => .mishap .outOfRange "a scalar is empty"
  | .formless => .mishap .missingAttribute "a scalar has not the form of its kind"
  | .tooGreat => .mishap .overflow "a number is out of range"
  | .notScalar => .mishap .wrongType "a node has to be a scalar"
  | .tooDeep => .mishap .tooDeep "nodes are nested too deeply"

/-- The failure for a file whose text cannot be read. -/
def unread : ReadFault → Failure
  | .file fault => .mishap (.file fault) fault.reason
  | .undecodable => .mishap .undecodable "the file is no text"

/-- The part of a document that tells the tasks: what is under `tasks`, or all of it. -/
def tasksPart (path : Path) (document : Value) : Except ConfigFault Value :=
  match document with
  | .null => .error (.emptyFile path)
  | .map entries =>
      match Entries.getText? entries "tasks" with
      | none => .ok document
      | some (.list (task :: tasks)) => .ok (.list (task :: tasks))
      | some _ => .error (.tasksNotList path)
  | .list _ => .ok document
  | _ => .error (.unexpectedTopLevel path)

/-- The tasks that the document of a file names. -/
def ofDocument (catalogue : Catalogue) (path : Path) (document : Value) :
    Except Failure (List Options) := do
  let part ← (tasksPart path document).mapError .config
  Options.tasksOfValue catalogue part

/-- The tasks that the text of a file names. -/
def ofText (catalogue : Catalogue) (path : Path) (text : String) :
    Except Failure (List Options) := do
  let document ← (Yaml.readDocument text).mapError (refused path)
  ofDocument catalogue path document

/-- The tasks that a file names. -/
def load (catalogue : Catalogue) (path : Path) : Work (List Options) := do
  if ← Program.perform (.reaches path) then
    match ← readText path with
    | .error fault => throw (unread fault)
    | .ok text =>
        match ofText catalogue path text with
        | .error failure => throw failure
        | .ok tasks => do
            Program.log .debug
              ("Loaded " ++ toString tasks.length ++ " task(s) from " ++ path.toString)
            pure tasks
  else throw (.config (.fileNotFound path))

end TemplateBundle.TaskFile
