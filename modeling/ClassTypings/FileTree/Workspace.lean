import ClassTypings.Fault
import ClassTypings.FileTree.Basic
/-!
# Workspaces

A workspace is a file tree with a working directory. A path leads through it step by step, and each
step starts from a directory that exists. Reading, writing and making directories say by a fault
why they cannot be done.
-/
namespace ClassTypings

/-- A file tree and the directory in which relative paths start. -/
structure Workspace where
  tree : FileTree
  home : Location

namespace Workspace

/-- The longest path, in bytes. -/
def maxPathSize : Nat := 4095

/-- The longest name, in bytes. -/
def maxNameSize : Nat := 255

/-- The fault of a path that leads nowhere whatever the tree is. -/
def spellingFault? (p : Path) : Option Fault :=
  if Byte.nul ∈ p.bytes then some .nulInPath
  else if p.bytes.isEmpty then some .noEntry
  else if maxPathSize < p.bytes.length then some .nameTooLong
  else none

/-- The fault of a location that is no directory. -/
def directoryFault? (tree : FileTree) (location : Location) : Option Fault :=
  match tree.node? location with
  | none => some .noEntry
  | some (.file _) => some .notDirectory
  | some .directory => none

/-- Where a step leads from a directory. The root is above itself. -/
def step (dir : Location) : Component → Except Fault Location
  | .root => .ok []
  | .here => .ok dir
  | .up => .ok dir.tail
  | .name name =>
    if maxNameSize < name.length then .error .nameTooLong else .ok (name :: dir)

/-- Where steps lead. Every place but the last must be a directory. -/
def walk (tree : FileTree) : Location → List Component → Except Fault Location
  | location, [] => .ok location
  | location, component :: components =>
    match directoryFault? tree location with
    | some fault => .error fault
    | none =>
      match step location component with
      | .error fault => .error fault
      | .ok next => walk tree next components

def start (w : Workspace) (p : Path) : Location := if p.isAbsolute then [] else w.home

/-- The location that a path leads to. A slash at its end asks for a directory. -/
def locate (w : Workspace) (p : Path) : Except Fault Location :=
  match spellingFault? p with
  | some fault => .error fault
  | none => walk w.tree (w.start p) (p.steps ++ if p.endsWithSlash then [.here] else [])

def node? (w : Workspace) (p : Path) : Except Fault Node :=
  match w.locate p with
  | .error fault => .error fault
  | .ok location =>
    match w.tree.node? location with
    | none => .error .noEntry
    | some node => .ok node

def isDirectory (w : Workspace) (p : Path) : Bool :=
  match w.node? p with
  | .ok .directory => true
  | _ => false

/-- The text of the file that a path leads to. -/
def read (w : Workspace) (p : Path) : Except Fault Text :=
  match w.node? p with
  | .error fault => .error fault
  | .ok .directory => .error .isDirectory
  | .ok (.file (.binary _)) => .error .notUtf8
  | .ok (.file (.text text)) => .ok text

/-- The directory and the last step of a path, `none` standing for a path without steps. -/
def lastStep (w : Workspace) (p : Path) : Except Fault (Location × Option Component) :=
  match spellingFault? p with
  | some fault => .error fault
  | none =>
    match walk w.tree (w.start p) p.steps.dropLast with
    | .error fault => .error fault
    | .ok dir =>
      match directoryFault? w.tree dir with
      | some fault => .error fault
      | none => .ok (dir, p.steps.getLast?)

def put (w : Workspace) (p : Path) (content : Content) : Except Fault Workspace :=
  match w.lastStep p with
  | .error fault => .error fault
  | .ok (dir, some (.name name)) =>
    if p.endsWithSlash then .error .isDirectory
    else if maxNameSize < name.length then .error .nameTooLong
    else if w.tree.node? (name :: dir) = some .directory then .error .isDirectory
    else .ok { w with tree := w.tree.place name dir (.file content) }
  | .ok _ => .error .isDirectory

def write (w : Workspace) (p : Path) (text : Text) : Except Fault Workspace :=
  w.put p (.text text)

def makeDirectory (w : Workspace) (p : Path) : Except Fault Workspace :=
  match w.lastStep p with
  | .error fault => .error fault
  | .ok (dir, some (.name name)) =>
    if maxNameSize < name.length then .error .nameTooLong
    else if (w.tree.node? (name :: dir)).isSome then .error .alreadyExists
    else .ok { w with tree := w.tree.place name dir .directory }
  | .ok _ => .error .alreadyExists

/-- The workspace after making the first of the paths, each of which lies below the next. What is
missing above is made first, and stays if a later directory cannot be made. -/
def makeChain (w : Workspace) : List Path → Workspace × Option Fault
  | [] => (w, none)
  | p :: above =>
    if p.bytes.isEmpty then (w, none)
    else
      match w.makeDirectory p with
      | .ok made => (made, none)
      | .error fault =>
        if fault = .noEntry then
          match w.makeChain above with
          | (below, some fault) => (below, some fault)
          | (below, none) =>
            match below.makeDirectory p with
            | .ok made => (made, none)
            | .error fault => if below.isDirectory p then (below, none) else (below, some fault)
        else if w.isDirectory p then (w, none)
        else (w, some fault)

def makeDirectories (w : Workspace) (p : Path) : Workspace × Option Fault :=
  w.makeChain (p :: p.above)

def isListable (p : Path) : Bool := p.bytes.length ≤ maxPathSize

/-- The path of a location at or below `dir`, which is where the path `p` leads. A location is found
by listing one directory after another. -/
def pathUnder? (p : Path) (dir : Location) : Location → Option Path
  | [] => if dir = [] then some p else none
  | name :: location =>
    if dir = name :: location then some p
    else ((pathUnder? p dir location).filter isListable).map (·.join name)

def sourceExtension : Text := "php".toList

/-- The path of a source file at or below `dir`, which is where the path `p` leads. -/
def sourcePath? (p : Path) (dir : Location) : Location × Node → Option Path
  | (location, .file _) => (pathUnder? p dir location).filter (·.extension? = some sourceExtension.bytes)
  | (_, .directory) => none

/-- The paths of all source files at or below a path, in order. -/
def sources (w : Workspace) (p : Path) : List Path :=
  match w.locate p with
  | .error _ => []
  | .ok dir => (w.tree.nodes.filterMap (sourcePath? p dir)).mergeSort Path.le

/-- The path of a directory at or below `dir`, which is where the path `p` leads, if its entries
cannot be listed. -/
def closedPath? (p : Path) (dir : Location) : Location × Node → Option Path
  | (location, .directory) => (pathUnder? p dir location).filter (!isListable ·)
  | (_, .file _) => none

/-- The paths of the directories at or below a path whose entries cannot be listed. -/
def closedDirectories (w : Workspace) (p : Path) : List Path :=
  match w.locate p with
  | .error _ => []
  | .ok dir => w.tree.nodes.filterMap (closedPath? p dir)

end Workspace
end ClassTypings
