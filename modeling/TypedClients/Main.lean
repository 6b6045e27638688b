import TypedClients.Command.Places
import TypedClients.Command.Run

/-!
# The program

Looks at the disk where a command will look, runs the command on what was found, and carries its
effects out. Nothing is decided here.

What the disk holds is taken into a file tree before the command runs, as far as `Places` says, and
what differs in the tree afterwards is written. The theorems are about the command, between these
two steps.
-/

namespace TypedClients.Disk

/-- The path of a location. -/
def pathOf (location : Location) : String :=
  "/" ++ String.intercalate "/" location

/-- What is at a location, a link standing for what it leads to. -/
def nodeAt (location : Location) : IO (Option Node) := do
  try
    let path := (← IO.currentDir) / pathOf location
    match (← path.metadata).type with
    | .dir => return some .directory
    | .file => return some (.file (String.fromUTF8? (← IO.FS.readBinFile path)))
    | _ => return none
  catch _ => return none

/-- Add what is below a directory. Links are passed over, and of files that hold no declarations
only the fact is kept that they are there. -/
partial def addBelow (location : Location) (tree : FileTree) : IO FileTree := do
  let mut tree := tree
  for entry in ← ((← IO.currentDir) / pathOf location).readDir do
    let below := location ++ [entry.fileName]
    match (← entry.path.symlinkMetadata).type with
    | .dir => tree ← addBelow below (tree.put below .directory)
    | .file =>
      if Declaration.isDeclarationName entry.fileName then
        if let some node ← nodeAt below then tree := tree.put below node
      else if (tree.node? below).isNone then tree := tree.put below (.file none)
    | _ => pure ()
  return tree

/-- Add what is on the way of a path and at its end. -/
def addPlace (directory : String) (tree : FileTree) (place : String) : IO FileTree := do
  let mut tree := tree
  let mut location : Location := []
  for part in FilePath.parts (FilePath.join directory place) do
    if part = ".." then location := location.dropLast
    else if part ≠ "." then location := location ++ [part]
    if let some node ← nodeAt location then tree := tree.put location node
  return tree

/-- Add what a command reads. -/
def addSource (directory : String) (tree : FileTree) (place : String) : IO FileTree := do
  let tree ← addPlace directory tree place
  match tree.find (FilePath.join directory place) with
  | .ok (location, .directory) => addBelow location tree
  | _ => return tree

/-- Make on the disk what is new in a tree. -/
def carryOut (before after : FileTree) : IO Unit := do
  for (location, node) in after.nodes do
    if before.node? location ≠ some node then
      match node with
      | .directory => IO.FS.createDir (pathOf location)
      | .file (some text) => IO.FS.writeFile (pathOf location) text
      | .file none => pure ()

/-- The part of the disk at which a command line looks. -/
def treeFor (directory : String) (words : List String) : IO FileTree := do
  match Command.ofWords words with
  | .error _ => return ⟨[]⟩
  | .ok command =>
    let tree ← command.sources.foldlM (addSource directory) (← addPlace directory ⟨[]⟩ ".")
    (command.targets ⟨tree, directory⟩).foldlM (addPlace directory) tree

/-- Run a command line. -/
def run (words : List String) : IO UInt32 := do
  let directory := (← IO.currentDir).toString
  let tree ← treeFor directory words
  let outcome := Command.runWords (← (← IO.getStdout).isTty) ⟨tree, directory⟩ words
  carryOut tree outcome.workspace.tree
  IO.print outcome.output
  IO.eprint outcome.errors
  return outcome.exitCode.toUInt32

end TypedClients.Disk

def main (words : List String) : IO UInt32 := do
  try TypedClients.Disk.run words
  catch fault =>
    IO.eprintln (toString fault)
    return 1
