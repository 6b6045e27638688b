import TypedClients.FileTree

/-!
# Workspaces

A file tree seen from a directory. Relative paths start there; in messages a path stays as it was
given.

The directory plays two parts. It is the one in which the program runs, from which the system
follows relative paths, and it is the project directory of every command, in which the usual
configuration and the output directory are looked for. They are one because a command has no other
way to a project directory than to ask the system for the directory that the program runs in, which
the system gives as an absolute path, or not at all when that directory has been removed.
-/

namespace TypedClients

/-- A file tree and the directory from which it is seen, as an absolute path. -/
structure Workspace where
  tree : FileTree
  directory : String
deriving Repr, DecidableEq

namespace Workspace

/-- A path as seen from the root. -/
def absolute (workspace : Workspace) (path : String) : String :=
  FilePath.join workspace.directory path

/-- Whether a path leads to a directory. An empty path leads nowhere. -/
def isDirectory (workspace : Workspace) (path : String) : Bool :=
  !path.isEmpty && workspace.tree.isDirectory (workspace.absolute path)

/-- The directory that the system gives to a program that asks for the one it runs in. -/
def currentDirectory (workspace : Workspace) : Except FileTree.Fault String :=
  if workspace.isDirectory workspace.directory then .ok workspace.directory else .error .notFound

/-- Whether a path leads to a file. -/
def isFile (workspace : Workspace) (path : String) : Bool :=
  workspace.tree.isFile (workspace.absolute path)

/-- The text of the file that a path leads to. -/
def read (workspace : Workspace) (path : String) : Except FileTree.Fault String :=
  workspace.tree.read (workspace.absolute path)

/-- Put a file with a text at the end of a path. -/
def write (workspace : Workspace) (path text : String) : Except FileTree.Fault Workspace :=
  (workspace.tree.write (workspace.absolute path) text).map fun tree => { workspace with tree }

/-- Make the directory that a path names, with all that is missing on the way. What was made
before a failure stays. -/
def makeDirectories (workspace : Workspace) (path : String) :
    Workspace × Option FileTree.Fault :=
  let (tree, fault) := workspace.tree.makeDirectories (workspace.absolute path)
  ({ workspace with tree }, fault)

/-- The paths of the files at any depth below a directory that have a wanted name, in the order of
the names on the way to them. -/
def filesBelow (workspace : Workspace) (path : String) (wanted : String → Bool) : List String :=
  match workspace.tree.find (workspace.absolute path) with
  | .ok (location, .directory) =>
    (workspace.tree.filesBelow location wanted).map fun names => names.foldl FilePath.join path
  | _ => []

end Workspace

end TypedClients
