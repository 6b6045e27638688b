import TypedClients.ProjectConfig
import TypedClients.Workspace

/-!
# The configuration file

A configuration file that is asked for by its path has to be there. Otherwise a file of the usual
name in the directory of the project counts, and without one everything keeps its default. The
directory of the project is the one that the program runs in, and has to be there in either case.

A file that is not readable, a text that is no TOML and a setting of another type are all faults, in
this order, and no setting is used of a file with one.
-/

namespace TypedClients.ProjectConfig

/-- The usual name of the file. -/
def fileName : String := "clientgen.toml"

/-- Why no settings can be had. -/
inductive FileFault where
  /-- The system does not give the directory that the program runs in. -/
  | nowhere (fault : FileTree.Fault)
  | unreadable (path : String) (fault : FileTree.Fault)
  | invalid (path : String) (fault : Fault)
deriving Repr, DecidableEq

/-- The wording of a fault. -/
def FileFault.message : FileFault → String
  | .nowhere fault => "Failed to get current directory: " ++ fault.message
  | .unreadable path fault => "Failed to read " ++ path ++ ": " ++ fault.message
  | .invalid path fault => "Invalid configuration in " ++ path ++ ": " ++ fault.message

/-- The settings in a file. -/
def loadFile (workspace : Workspace) (path : String) : Except FileFault ProjectConfig :=
  match workspace.read path with
  | .error fault => .error (.unreadable path fault)
  | .ok text =>
    match read text with
    | .error fault => .error (.invalid path fault)
    | .ok config => .ok config

/-- The settings of the project in a directory, from the file that is asked for or the usual one. -/
def loadFrom (workspace : Workspace) (project : String) (asked : Option String) :
    Except FileFault ProjectConfig :=
  match asked with
  | some path => loadFile workspace path
  | none =>
    let usual := FilePath.join project fileName
    if workspace.isFile usual then loadFile workspace usual else .ok standard

/-- The directory of the project: the one that the program runs in. -/
def projectDirectory (workspace : Workspace) : Except FileFault String :=
  workspace.currentDirectory.mapError .nowhere

/-- The settings with which a command runs. -/
def load (workspace : Workspace) (asked : Option String) : Except FileFault ProjectConfig := do
  let project ← projectDirectory workspace
  loadFrom workspace project asked

end TypedClients.ProjectConfig
