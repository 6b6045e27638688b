import TypedClients.Declaration.Source
import TypedClients.Workspace

/-!
# Declaration files

A run is given files and directories. A file is taken as it is; of a directory every file at any
depth counts whose extension is one of declarations. The extension `json` decides for the format
JSON, and any other file is read as YAML.

The files of a directory come in the order of their paths, so a run does not depend on the order in
which the disk lists them. An input that is neither a file nor a directory is a fault, which ends
the collecting.
-/

namespace TypedClients.Declaration

/-- The extensions of declaration files. -/
def fileExtensions : List String := ["json", "yaml", "yml"]

/-- Whether an extension is a certain one, up to the case of letters. -/
def isExtension (wanted : String) (extension : Option String) : Bool :=
  extension.any fun extension => Text.sameFolded extension wanted

/-- Whether a file of this name in a directory counts as a declaration file. -/
def isDeclarationName (name : String) : Bool :=
  fileExtensions.any fun wanted => isExtension wanted (FilePath.extensionOfName? name)

/-- The format of the declarations in a file. -/
def formatOf (path : String) : Format :=
  if isExtension "json" (FilePath.extension? path) then .json else .yaml

/-- Why the declarations of files cannot be had. -/
inductive FileFault where
  /-- A path leads to neither a file nor a directory. -/
  | inputNotFound (path : String)
  | unreadable (path : String) (fault : FileTree.Fault)
  | malformed (path : String) (fault : Fault)
deriving Repr, DecidableEq

/-- The wording of a fault. -/
def FileFault.message : FileFault → String
  | .inputNotFound path => "Input not found: " ++ path
  | .unreadable path fault => "Failed to read " ++ path ++ ": " ++ fault.message
  | .malformed path fault => path ++ ": " ++ fault.message

/-- The declaration files of one input. -/
def filesOfInput (workspace : Workspace) (path : String) : Except FileFault (List String) :=
  if workspace.isDirectory path then
    .ok (workspace.filesBelow path isDeclarationName)
  else if workspace.isFile path then .ok [path]
  else .error (.inputNotFound path)

/-- The declaration files of the inputs, in the order of the inputs. -/
def collectFiles (workspace : Workspace) (inputs : List String) :
    Except FileFault (List String) :=
  (inputs.mapM (filesOfInput workspace)).map List.flatten

/-- The declarations of a file. -/
def load (workspace : Workspace) (path : String) : Except FileFault (List ClassDeclaration) :=
  match workspace.read path with
  | .error fault => .error (.unreadable path fault)
  | .ok text =>
    match read (formatOf path) text with
    | .error fault => .error (.malformed path fault)
    | .ok classes => .ok classes

end TypedClients.Declaration
