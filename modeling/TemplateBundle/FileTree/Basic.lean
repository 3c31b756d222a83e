import TemplateBundle.FileTree.Fault
import TemplateBundle.Path

/-!
Contract: a tree of files, directories, links and pipes.

Owns: the tree as a list of located nodes, the way from a path to the place it leads to
(links followed, two dots taken as the parent), and the steps that read and change it.
The order of the list is the order in which a directory names its entries.

Does not own: the names in a directory (`FileTree.Listing`); which steps a task takes (`Program`,
`Task`).
-/

namespace TemplateBundle

/-- A place in the tree: the names on the way from the root. -/
abbrev Location := List String

/-- What stands at a location. -/
inductive Node where
  | file (content : ByteArray) (executable : Bool)
  | directory
  | link (target : String)
  | pipe

/-- What kind of node a node is. -/
inductive NodeKind where
  | regular
  | directory
  | link
  | pipe
deriving DecidableEq, Repr

/-- The kind of a node. -/
def Node.kind : Node → NodeKind
  | .file _ _ => .regular
  | .directory => .directory
  | .link _ => .link
  | .pipe => .pipe

/-- The node is a directory. -/
def Node.isDirectory (node : Node) : Bool := node.kind = .directory

/-- A tree of files: its nodes, apart from the root itself, and the working directory that
relative paths start from. -/
structure FileTree where
  entries : List (Location × Node)
  home : Location

/-- Where a path leads: to a node, or to a name that is free in a directory. -/
inductive Place where
  | occupied (location : Location) (node : Node)
  | vacant (location : Location)

/-- The node at a place. -/
def Place.node : Place → Except FileFault (Location × Node)
  | .occupied location node => .ok (location, node)
  | .vacant _ => .error .missing

/-- What is done at the last name on a way. -/
inductive Arrival where
  /-- A link is where the way ends. -/
  | atLink
  /-- A link is followed. -/
  | behindLink
  /-- A link is followed, and a file is made where nothing stands. -/
  | making
deriving DecidableEq, Repr

/-- What one name on a way comes to. -/
inductive Turn where
  /-- The way goes on from a location. -/
  | onward (location : Location)
  /-- The way goes on behind a link, along other parts. -/
  | aside (location : Location) (parts : List String)
  | ends (place : Place)
  | breaks (fault : FileFault)

namespace FileTree

/-- The node at a location. The root is a directory. -/
def node? (tree : FileTree) (location : Location) : Option Node :=
  if location = [] then some .directory
  else (tree.entries.find? fun entry => entry.1 == location).map Prod.snd

/-- A directory stands at a location. -/
def isDirectoryAt (tree : FileTree) (location : Location) : Bool :=
  (tree.node? location).any Node.isDirectory

/-- Sets the node at a location: in place if there is one, else as the last entry. -/
def setEntries : List (Location × Node) → Location → Node → List (Location × Node)
  | [], location, node => [(location, node)]
  | (present, old) :: rest, location, node =>
      if present == location then (present, node) :: rest
      else (present, old) :: setEntries rest location node

/-- The tree with a node set at a location. -/
def set (tree : FileTree) (location : Location) (node : Node) : FileTree :=
  { tree with entries := setEntries tree.entries location node }

/-- The parts that a text is walked by as it stands. A dot asks for a directory, and so does a
slash at the end, for which there is an empty part. -/
def wayOf (text : String) : List String :=
  let parts := (Text.pieces '/' text).filter (· ≠ "")
  if parts ≠ [] ∧ text.toList.getLast? = some '/' then parts ++ [""] else parts

/-- The location that a text is walked from. -/
def startOf (text : String) (here : Location) : Location :=
  if text.toList.head? = some '/' then [] else here

/-- What the next name on a way comes to, with the names after it. No file is made at a name
with a slash after it. -/
def turn (tree : FileTree) (arrival : Arrival) (location : Location) (part : String)
    (rest : List String) : Turn :=
  if ¬ tree.isDirectoryAt location then .breaks .notDirectory
  else if part = "." ∨ part = "" then .onward location
  else if part = ".." then .onward location.dropLast
  else if arrival = .making ∧ rest = [""] then .breaks .isDirectory
  else
    match tree.node? (location ++ [part]) with
    | none => if rest = [] then .ends (.vacant (location ++ [part])) else .breaks .missing
    | some (.link target) =>
        if rest = [] ∧ arrival = .atLink then
          .ends (.occupied (location ++ [part]) (.link target))
        else .aside (startOf target location) (wayOf target ++ rest)
    | some _ => .onward (location ++ [part])

/-- The way along some parts from a location. Behind a link it goes on as `follow` says. -/
def along (tree : FileTree) (arrival : Arrival)
    (follow : Location → List String → Except FileFault Place) (location : Location) :
    List String → Except FileFault Place
  | [] =>
      match tree.node? location with
      | some node => .ok (.occupied location node)
      | none => .error .missing
  | part :: rest =>
      match tree.turn arrival location part rest with
      | .onward next => along tree arrival follow next rest
      | .aside next parts => follow next parts
      | .ends place => .ok place
      | .breaks fault => .error fault

/-- The way along some parts from a location, with at most `budget` links on it. -/
def walk (tree : FileTree) (arrival : Arrival) :
    Nat → Location → List String → Except FileFault Place
  | 0 => tree.along arrival fun _ _ => .error .tooManyLinks
  | budget + 1 => tree.along arrival (walk tree arrival budget)

/-- The greatest number of links on the way to a place. -/
def linkBudget : Nat := 40

/-- The place a path leads to. -/
def find (tree : FileTree) (arrival : Arrival) (path : Path) : Except FileFault Place :=
  if path.isUsable then
    tree.walk arrival linkBudget (if path.slashes = 0 then tree.home else []) path.parts
  else .error .unusablePath

/-- The node a path leads to, links followed. -/
def findNode (tree : FileTree) (path : Path) : Except FileFault (Location × Node) :=
  (tree.find .behindLink path).bind Place.node

/-- The node that a text leads to which is no normal path but walked as it stands. -/
def findNodeAsWritten (tree : FileTree) (text : String) : Except FileFault (Location × Node) :=
  if text.toList.contains '\x00' then .error .unusablePath
  else
    (tree.walk .behindLink linkBudget (startOf text tree.home) (wayOf text)).bind Place.node

/-- The path leads to something. -/
def reaches (tree : FileTree) (path : Path) : Bool := (tree.findNode path).toBool

/-- The path leads to a directory. -/
def reachesDirectory (tree : FileTree) (path : Path) : Bool :=
  match tree.findNode path with
  | .ok (_, .directory) => true
  | _ => false

/-- The kind of what stands at the path itself, links not followed. -/
def inspect (tree : FileTree) (path : Path) : Except FileFault NodeKind :=
  ((tree.find .atLink path).bind Place.node).map fun found => found.2.kind

/-- The bytes of the file a path leads to. Nothing waits in a pipe. -/
def read (tree : FileTree) (path : Path) : Except FileFault ByteArray :=
  match tree.findNode path with
  | .ok (_, .file content _) => .ok content
  | .ok (_, .directory) => .error .isDirectory
  | .ok _ => .ok ByteArray.empty
  | .error fault => .error fault

/-- Changes the bytes of the file a path leads to, or makes the file. Nobody reads from a pipe,
so that opening one for writing does not succeed. -/
def change (tree : FileTree) (path : Path) (content : ByteArray → ByteArray) :
    Except FileFault FileTree :=
  match tree.find .making path with
  | .ok (.occupied location (.file old executable)) =>
      .ok (tree.set location (.file (content old) executable))
  | .ok (.occupied _ .directory) => .error .isDirectory
  | .ok (.occupied _ _) => .error .denied
  | .ok (.vacant location) => .ok (tree.set location (.file (content ByteArray.empty) false))
  | .error fault => .error fault

/-- Makes a file hold just a text. -/
def truncate (tree : FileTree) (path : Path) (text : String) : Except FileFault FileTree :=
  tree.change path fun _ => text.toUTF8

/-- Adds a text at the end of a file. -/
def append (tree : FileTree) (path : Path) (text : String) : Except FileFault FileTree :=
  tree.change path fun old => old ++ text.toUTF8

/-- Makes one directory at a free name. -/
def makeDirectory (tree : FileTree) (path : Path) : Except FileFault FileTree :=
  match tree.find .atLink path with
  | .ok (.vacant location) => .ok (tree.set location .directory)
  | .ok (.occupied _ _) => .error .alreadyExists
  | .error fault => .error fault

/-- Makes a directory and those above it that do not exist, given by its parts in reverse,
and says how the tree stands when one cannot be made. A directory that is already there is
no fault; nor is a name above it that turns out to be taken, before the directory itself
is tried. -/
def makeDirectoriesUp (slashes : Nat) : FileTree → List String →
    Except FileFault Unit × FileTree
  | tree, [] =>
      let path : Path := ⟨slashes, []⟩
      match tree.makeDirectory path with
      | .ok made => (.ok (), made)
      | .error fault => (if tree.reachesDirectory path then .ok () else .error fault, tree)
  | tree, part :: above =>
      let path : Path := ⟨slashes, (part :: above).reverse⟩
      let upper : Path := ⟨slashes, above.reverse⟩
      let (outcome, tree) :=
        if above ≠ [] ∧ ¬ tree.reaches upper then
          match makeDirectoriesUp slashes tree above with
          | (.error .alreadyExists, changed) => (.ok (), changed)
          | result => result
        else (.ok (), tree)
      match outcome with
      | .error fault => (.error fault, tree)
      | .ok () =>
          match tree.makeDirectory path with
          | .ok made => (.ok (), made)
          | .error fault => (if tree.reachesDirectory path then .ok () else .error fault, tree)

/-- Makes a directory and those above it. -/
def makeDirectories (tree : FileTree) (path : Path) : Except FileFault Unit × FileTree :=
  tree.makeDirectoriesUp path.slashes path.parts.reverse

end FileTree

end TemplateBundle
