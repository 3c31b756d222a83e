import TemplateBundle.Program.Basic
import TemplateBundle.Text.Utf8

/-!
Contract: an output file written piece by piece, and the texts that are read.

Owns: the stream, which puts a separator between pieces, passes over empty ones and ends
the file with one line feed, and making the directory that the file goes into.
-/

namespace TemplateBundle

/-- An output file. `written` says that a piece stands in it. -/
structure OutputStream where
  path : Path
  separator : String
  written : Bool
deriving DecidableEq

/-- Why a text cannot be read. -/
inductive ReadFault where
  | file (fault : FileFault)
  | undecodable
deriving DecidableEq, Repr

/-- Makes a directory and those above it. The working directory is there already. -/
def ensureDirectory (path : Path) : Work Unit :=
  if path.toString = "." then pure ()
  else do
    match ← Program.perform (.makeDirectories path) with
    | .ok () => pure ()
    | .error fault => throw (Failure.ofFile (.outputDirectory path) fault)

/-- The text of a file, as it stands there. -/
def readText (path : Path) : Program (Except ReadFault String) := do
  match ← Program.perform (.read path) with
  | .error fault => pure (.error (.file fault))
  | .ok bytes =>
      match Text.decodeUtf8? bytes with
      | some text => pure (.ok text)
      | none => pure (.error .undecodable)

namespace OutputStream

/-- A stream that has written nothing. -/
def ofPath (path : Path) (separator : String) : OutputStream := ⟨path, separator, false⟩

/-- The outcome of a write. -/
def writeOutcome (path : Path) : Except FileFault Unit → Except Failure Unit
  | .ok () => .ok ()
  | .error fault => .error (Failure.ofFile (.write path) fault)

/-- Makes the file hold its first piece alone. -/
def start (stream : OutputStream) (text : String) :
    Program (Except Failure Unit × OutputStream) := do
  match writeOutcome stream.path (← Program.perform (.truncate stream.path text)) with
  | .ok () => pure (.ok (), { stream with written := text ≠ "" })
  | .error failure => pure (.error failure, stream)

/-- Adds a piece. -/
def append (stream : OutputStream) (text : String) :
    Program (Except Failure Unit × OutputStream) := do
  if text = "" then pure (.ok (), stream)
  else
    let piece := if stream.written then stream.separator ++ text else text
    match writeOutcome stream.path (← Program.perform (.append stream.path piece)) with
    | .ok () => pure (.ok (), { stream with written := true })
    | .error failure => pure (.error failure, stream)

/-- Adds the last piece and the line feed at the end of a file that holds anything. -/
def close (stream : OutputStream) (text : String) :
    Program (Except Failure Unit × OutputStream) := do
  match ← stream.append text with
  | (.error failure, stream) => pure (.error failure, stream)
  | (.ok (), stream) =>
      if stream.written then
        let outcome := writeOutcome stream.path (← Program.perform (.append stream.path "\n"))
        pure (outcome, stream)
      else pure (.ok (), stream)

end OutputStream

end TemplateBundle
