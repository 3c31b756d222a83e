import TemplateBundle.Failure
import TemplateBundle.FileTree.Listing

/-!
Contract: work as a sequence of steps on the file system, with what is told on the way.

Owns: the steps and their answers, programs over them, the run of a program on a tree of
files, and the interleaving of several programs.

Does not own: what a task does (`Task`).
-/

namespace TemplateBundle

/-- A step on the file system. -/
inductive FileStep where
  | makeDirectories (path : Path)
  | truncate (path : Path) (text : String)
  | append (path : Path) (text : String)
  | list (path : Path) (recursive : Bool)
  | inspect (path : Path)
  | read (path : Path)
  | reaches (path : Path)

/-- What a step answers. -/
abbrev FileStep.Reply : FileStep → Type
  | .makeDirectories _ => Except FileFault Unit
  | .truncate _ _ => Except FileFault Unit
  | .append _ _ => Except FileFault Unit
  | .list _ _ => Except FileFault (List String)
  | .inspect _ => Except FileFault NodeKind
  | .read _ => Except FileFault ByteArray
  | .reaches _ => Bool

/-- How much a line of the log matters. -/
inductive LogLevel where
  | debug
  | info
  | warning
  | error
deriving DecidableEq, Repr

/-- The name of a level. -/
def LogLevel.name : LogLevel → String
  | .debug => "DEBUG"
  | .info => "INFO"
  | .warning => "WARNING"
  | .error => "ERROR"

/-- A line of the log. -/
structure LogLine where
  level : LogLevel
  text : String
deriving DecidableEq, Repr

/-- The written form of a line. -/
def LogLine.render (line : LogLine) : String := "[" ++ line.level.name ++ "] " ++ line.text

/-- A request to the template compiler. -/
inductive CompilerRequest where
  | parse (source : Value)
  | precompile (template options : Value)
deriving DecidableEq

/-- What a program tells while it runs. -/
inductive Event where
  | log (line : LogLine)
  | request (request : CompilerRequest)
deriving DecidableEq

/-- A program: done with a value, a step and what follows each answer, or an event and
what follows it. -/
inductive Program (α : Type) where
  | done (value : α)
  | act (step : FileStep) (next : step.Reply → Program α)
  | note (event : Event) (next : Program α)

/-- What a step answers on a tree, and the tree after it. -/
def FileTree.perform (tree : FileTree) : (step : FileStep) → step.Reply × FileTree
  | .makeDirectories path => tree.makeDirectories path
  | .truncate path text =>
      match tree.truncate path text with
      | .ok changed => (.ok (), changed)
      | .error fault => (.error fault, tree)
  | .append path text =>
      match tree.append path text with
      | .ok changed => (.ok (), changed)
      | .error fault => (.error fault, tree)
  | .list path recursive => (tree.list path recursive, tree)
  | .inspect path => (tree.inspect path, tree)
  | .read path => (tree.read path, tree)
  | .reaches path => (tree.reaches path, tree)

/-- The end of a run: the value, the tree as it is left, and what was told. -/
structure Outcome (α : Type) where
  value : α
  tree : FileTree
  events : List Event

namespace Program

variable {α β : Type}

/-- One program after another. -/
def bind : Program α → (α → Program β) → Program β
  | .done value, following => following value
  | .act step next, following => .act step fun reply => (next reply).bind following
  | .note event next, following => .note event (next.bind following)

instance : Monad Program where
  pure := .done
  bind := bind

/-- A single step. -/
def perform (step : FileStep) : Program step.Reply := .act step .done

/-- Tells a list of events. -/
def tell : List Event → Program Unit
  | [] => .done ()
  | event :: rest => .note event (tell rest)

/-- Writes one line to the log. -/
def log (level : LogLevel) (text : String) : Program Unit := .note (.log ⟨level, text⟩) (.done ())

/-- The run of a program on a tree. -/
def run : Program α → FileTree → Outcome α
  | .done value, tree => ⟨value, tree, []⟩
  | .act step next, tree =>
      let (reply, changed) := tree.perform step
      (next reply).run changed
  | .note event next, tree =>
      let rest := next.run tree
      { rest with events := event :: rest.events }

/-- The programs of a list one after the other. -/
def inOrder : List (Program α) → Program (List α)
  | [] => .done []
  | program :: rest =>
      program.bind fun value => (inOrder rest).bind fun values => .done (value :: values)

/-- Several programs at once. The schedule names, for each turn, the program that goes on
by one step or event; when it is used up, what is left is done in order. -/
def interleave : List Nat → List (Program α) → Program (List α)
  | [], programs => inOrder programs
  | turn :: schedule, programs =>
      match programs[turn]? with
      | some (.act step next) =>
          .act step fun reply => interleave schedule (programs.set turn (next reply))
      | some (.note event next) => .note event (interleave schedule (programs.set turn next))
      | some (.done _) => interleave schedule programs
      | none => interleave schedule programs

end Program

/-- Work that can fail. -/
abbrev Work := ExceptT Failure Program

end TemplateBundle
