import TypedClients.Command
import TypedClients.Declaration.Files
import TypedClients.FileChange
import TypedClients.GeneratedFile
import TypedClients.ProjectConfig.File

/-!
# Plans of generation

Everything that a request for generated files decides before it writes: the output directory, the
files with their texts, and what is on disk in their places. A plan fails on the configuration,
on the declaration files, when two clients have one file name, and on the template of the attribute
definitions; nothing is written then.
-/

namespace TypedClients.Command

/-- The output directory when nothing sets one. -/
def usualOutputDirectory : String := "Generated"

/-- Why there is no plan. -/
inductive PlanFault where
  | config (fault : ProjectConfig.FileFault)
  | declarations (fault : Declaration.FileFault)
  /-- The inputs hold no declaration file. -/
  | noFiles
  | layout (failure : LayoutFailure)
  /-- Two clients have one file name. The diagnostics are those of the clients up to the second
  of them. -/
  | collision (fileName : String) (diagnostics : List Diagnostic)
  /-- The file of the attribute definitions cannot be made. The diagnostics are those of all
  clients. -/
  | attributes (fault : AttributeDefinitions.RenderFault) (diagnostics : List Diagnostic)
deriving Repr, DecidableEq

/-- The wording of a fault. -/
def PlanFault.message : PlanFault → String
  | .config fault => fault.message
  | .declarations fault => fault.message
  | .noFiles => "No declaration files found"
  | .layout failure => failure.message
  | .collision fileName _ => "Two clients would both be written to " ++ fileName
  | .attributes fault _ => fault.message

/-- The diagnostics that were found before a fault. -/
def PlanFault.diagnostics : PlanFault → List Diagnostic
  | .collision _ diagnostics | .attributes _ diagnostics => diagnostics
  | _ => []

/-- What generation will do. -/
structure Plan where
  /-- The output directory, as seen from the root. -/
  directory : String
  /-- The files of the clients in the order of their declarations, and that of the attribute
  definitions last. -/
  changes : List FileChange
  diagnostics : List Diagnostic
deriving Repr, DecidableEq

/-- The output directory of a request. -/
def outputDirectory (workspace : Workspace) (request : GenerateRequest) (config : ProjectConfig) :
    String :=
  workspace.absolute
    ((request.outputDirectory.or config.outputDirectory).getD usualOutputDirectory)

/-- The clients of declaration files. All files are read before the first client is made. -/
def clientsOf (workspace : Workspace) (defaults : Defaults) (files : List String) :
    Except PlanFault (List GeneratedClient) := do
  let classes ← (files.mapM (Declaration.load workspace)).mapError PlanFault.declarations
  (classes.flatten.mapM fun declared => generateClient declared defaults).mapError .layout

/-- The first client whose file name an earlier one has, as a fault. -/
def collision? (taken : List String) (found : List Diagnostic) :
    List GeneratedClient → Option PlanFault
  | [] => none
  | client :: clients =>
    let found := found ++ client.diagnostics
    if taken.contains client.file.name then some (.collision client.file.name found)
    else collision? (client.file.name :: taken) found clients

/-- The file of the attribute definitions, unless it is left out. -/
def attributeFiles (request : GenerateRequest) (defaults : Defaults) :
    Except AttributeDefinitions.RenderFault (List GeneratedFile) :=
  if request.withoutAttributes then .ok []
  else (generateAttributes defaults.rootNamespace).map fun file => [file]

/-- A file set against what can be read in its place. -/
def changeOf (workspace : Workspace) (directory : String) (file : GeneratedFile) : FileChange where
  name := file.name
  text := file.text
  existing := (workspace.read (FilePath.join directory file.name)).toOption

/-- The plan of clients, once they are there. -/
def planClients (workspace : Workspace) (request : GenerateRequest) (config : ProjectConfig)
    (clients : List GeneratedClient) : Except PlanFault Plan :=
  match collision? [] [] clients with
  | some fault => .error fault
  | none => do
    let diagnostics := clients.flatMap GeneratedClient.diagnostics
    let attributes ← (attributeFiles request config.defaults).mapError (.attributes · diagnostics)
    let directory := outputDirectory workspace request config
    let files := clients.map GeneratedClient.file ++ attributes
    return { directory, changes := files.map (changeOf workspace directory), diagnostics }

/-- The plan of a request. -/
def plan (workspace : Workspace) (request : GenerateRequest) : Except PlanFault Plan := do
  let config ← (ProjectConfig.load workspace request.config).mapError PlanFault.config
  let files ← (Declaration.collectFiles workspace request.inputs).mapError PlanFault.declarations
  if files.isEmpty then throw .noFiles
  let clients ← clientsOf workspace config.defaults files
  planClients workspace request config clients

end TypedClients.Command
