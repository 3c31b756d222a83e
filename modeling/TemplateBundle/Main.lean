import TemplateBundle.CommandLine.Run
import TemplateBundle.Settings

/-!
Contract: the program on the system's own files.

Owns: the steps on the file system, the log on the error stream, and the status that the
program ends with. It starts no process: for a build the compiler counts as not found, and
no module of functions can be named.
-/

namespace TemplateBundle

/-- The number that the system gives a path that is no directory. -/
def notDirectoryNumber : UInt32 := 20

/-- The number that the system gives a path that is a directory. -/
def isDirectoryNumber : UInt32 := 21

/-- The cause behind an error of the system. -/
def faultOf : IO.Error → FileFault
  | .noFileOrDirectory _ _ _ => .missing
  | .alreadyExists _ _ _ => .alreadyExists
  | .inappropriateType _ number _ =>
      if number = isDirectoryNumber then .isDirectory
      else if number = notDirectoryNumber then .notDirectory
      else .denied
  | .invalidArgument _ _ _ => .tooManyLinks
  | _ => .denied

/-- The outcome of a step of the system. -/
def attempt {α : Type} (step : IO α) : IO (Except FileFault α) := do
  try
    pure (.ok (← step))
  catch error => pure (.error (faultOf error))

/-- The greatest number of names on a path. -/
def pathDepth : Nat := 4096

/-- The names below a directory, links to directories not gone into. -/
def namesBelow : Nat → String → String → IO (List String)
  | 0, _, _ => pure []
  | depth + 1, directory, above => do
      let here ← IO.currentDir
      let mut names := []
      for entry in ← (here / directory).readDir do
        let name := above ++ entry.fileName
        match (← entry.path.symlinkMetadata).type with
        | .dir =>
            let below ← namesBelow depth (directory ++ "/" ++ entry.fileName) (name ++ "/")
            names := names ++ below
        | _ => names := names ++ [name]
      pure names

/-- The kind of node behind a type of file. -/
def kindOfType : IO.FS.FileType → NodeKind
  | .dir => .directory
  | .file => .regular
  | .symlink => .link
  | .other => .pipe

/-- A step on the system's own files. -/
def performReal : (step : FileStep) → IO step.Reply
  | .makeDirectories path => attempt (IO.FS.createDirAll path.toString)
  | .truncate path text => attempt (IO.FS.writeBinFile path.toString text.toUTF8)
  | .append path text =>
      attempt (IO.FS.withFile path.toString .append fun handle => handle.write text.toUTF8)
  | .list path true => attempt (namesBelow pathDepth path.toString "")
  | .list path false => attempt do
      let here ← IO.currentDir
      let entries ← (here / path.toString).readDir
      pure (entries.toList.map (·.fileName))
  | .inspect path => attempt do
      let here ← IO.currentDir
      pure (kindOfType (← (here / path.toString).symlinkMetadata).type)
  | .read path => attempt (IO.FS.readBinFile path.toString)
  | .reaches path => do
      let here ← IO.currentDir
      pure (← (here / path.toString).pathExists)

/-- A level of the log is shown from another one on. -/
def LogLevel.shows : LogLevel → LogLevel → Bool
  | .debug, _ => true
  | .info, level => level ≠ .debug
  | .warning, level => level = .warning || level = .error
  | .error, level => level = .error

/-- A program on the system's own files. -/
def Program.runReal {α : Type} (shown : LogLevel) : Program α → IO α
  | .done value => pure value
  | .act step next => do
      let reply ← performReal step
      (next reply).runReal shown
  | .note (.log line) next => do
      if shown.shows line.level then IO.eprintln line.render
      next.runReal shown
  | .note (.request _) next => next.runReal shown

/-- The compiler of this program, which is not there. -/
def absentCompiler (bridge : Bridge) : Compiler where
  available := .error bridge.notFound
  parse _ := .error bridge.notFound
  precompile _ _ := .error bridge.notFound

/-- The environment of this program, in which no function can be named. -/
def plainEnvironment (bridge : Bridge) : Environment where
  call _ _ := .error bridge.notFound
  compiler := absentCompiler bridge

/-- The variables of the system that settings are read from. -/
def settingVariables : IO Settings.Variables := do
  let mut found := []
  for name in Settings.names do
    if let some content ← IO.getEnv name then found := found ++ [(name, content)]
  pure found

/-- Prints how a command ended. -/
def printEnding : CommandLine.Ending → IO Unit
  | .printed lines => lines.forM IO.println
  | .misused fault => IO.eprintln ("Error: " ++ fault.message)
  | .failed failure =>
      if failure.isExpected then pure () else IO.eprintln ("Error: " ++ failure.message)

/-- Does what the arguments ask for, and answers with the status. -/
def runArguments (arguments : List String) : IO UInt32 := do
  match Settings.bridge (← settingVariables) with
  | .error _ => do
      IO.eprintln "Error: invalid settings"
      pure 1
  | .ok bridge => do
      let program := CommandLine.run [] (plainEnvironment bridge) [] arguments
      let ending ← program.runReal (CommandLine.shownLevel arguments)
      printEnding ending
      pure (UInt32.ofNat ending.exitCode)

end TemplateBundle

/-- The program. -/
def main (arguments : List String) : IO UInt32 := TemplateBundle.runArguments arguments
