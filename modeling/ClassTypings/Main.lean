import ClassTypings.Program
/-!
# The command line

The program on a real disk. Before a run the part of the disk that the command can reach is copied
into a workspace; afterwards the nodes that are new or changed are written back.
-/
namespace ClassTypings.Disk

def pathOf (location : Location) : Path :=
  ⟨Byte.slash :: [Byte.slash].intercalate location.reverse⟩

/-- The place of a location on the disk. Places are named by texts there. -/
def placeOf (location : Location) : String := String.ofList (pathOf location).text

/-- The tree with a copy of the node at a location, if the disk has one. -/
def load (tree : FileTree) : Location → IO FileTree
  | [] => return tree
  | name :: dir => do
    if (tree.node? (name :: dir)).isSome then return tree
    try
      let path ← IO.FS.realPath (placeOf (name :: dir))
      if ← path.isDir then return tree.place name dir .directory
      let bytes ← IO.FS.readBinFile path
      return tree.place name dir (.file (.ofBytes bytes))
    catch _ => return tree

/-- The tree with copies of all that a path passes on its way. -/
def loadPath (w : Workspace) (p : Path) : IO Workspace := do
  let mut tree := w.tree
  let mut location := w.start p
  for component in p.steps do
    match Workspace.step location component with
    | .ok next =>
      tree ← load tree next
      location := next
    | .error _ => pure ()
  return { w with tree }

/-- The tree with copies of all that lies below a directory, down to some depth. -/
def loadBelow : Nat → FileTree → Location → IO FileTree
  | 0, tree, _ => return tree
  | depth + 1, tree, dir => do
    if tree.node? dir ≠ some .directory then return tree
    try
      let path ← IO.FS.realPath (placeOf dir)
      let mut tree := tree
      for entry in ← path.readDir do
        let location := Text.bytes entry.fileName.toList :: dir
        tree ← load tree location
        tree ← loadBelow depth tree location
      return tree
    catch _ => return tree

/-- The depth to which directories are searched. -/
def maxDepth : Nat := 4096

/-- The workspace with the part of the disk that a command can reach. -/
def loadFor (command : Command) (env : Environment) (w : Workspace) : IO Workspace := do
  match command with
  | .convert job =>
    let config := (Config.ofEnvironment env).override job.overrides
    let w ← loadPath w job.input
    loadPath w (job.outputPath config)
  | .batch job =>
    let config := (Config.ofEnvironment env).override job.overrides
    let mut w ← loadPath w job.source
    if let .ok dir := w.locate job.source then
      w := { w with tree := ← loadBelow maxDepth w.tree dir }
    for path in job.target :: job.target.above do
      w ← loadPath w path
    for input in w.sources job.source do
      w ← loadPath w (defaultOutput input job.target config.suffix job.extension)
    return w

/-- Writes the nodes that are new or changed to the disk. Directories come before what they hold. -/
def store (before after : FileTree) : IO Unit := do
  for (location, node) in after.nodes do
    if before.node? location ≠ some node then
      match node with
      | .directory => IO.FS.createDir (placeOf location)
      | .file (.text text) => IO.FS.writeFile (placeOf location) (String.ofList text)
      | .file (.binary bytes) => IO.FS.writeBinFile (placeOf location) ⟨bytes.toArray⟩

/-- The working directory. -/
def home : IO Location := do
  let path ← IO.currentDir
  return (((Path.ofText path.toString.toList).pieces).filter (!·.isEmpty)).reverse

/-- The values of the variables that a run looks at. -/
def environment : IO Environment := do
  let vars ← Program.variableNames.filterMapM fun name => do
    let value ← IO.getEnv (String.ofList name)
    return value.map fun value => (name, value.toList)
  return Environment.ofList vars

/-- Runs the program on the disk and answers its status. -/
def run (args : List Bytes) : IO Nat := do
  let env ← environment
  let mut w : Workspace := ⟨.empty, ← home⟩
  w ← loadPath w (pathOf w.home)
  if let .ok invocation := Invocation.ofArguments args then
    w ← loadFor invocation.command env w
  let result := Program.run args env w
  store w.tree result.workspace.tree
  IO.print (String.ofList result.stdout)
  IO.eprint (String.ofList result.stderr)
  return result.status

end ClassTypings.Disk

def main (args : List String) : IO UInt32 := do
  let status ← ClassTypings.Disk.run (args.map fun arg => ClassTypings.Text.bytes arg.toList)
  return status.toUInt32
