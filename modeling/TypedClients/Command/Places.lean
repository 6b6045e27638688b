import TypedClients.Command.Generate.Plan

/-!
# Places of a command

The paths at which a command looks. Those of its sources are known from the request; where files
will be written is known only once the sources have been read.

A command never asks for its places, since it runs on the workspace that it is given. They are for
the program, which takes from the disk what is at the sources and puts back what is at the targets.
-/

namespace TypedClients.Command

/-- The configuration file at which a request looks. -/
def configPlace (asked : Option String) : String :=
  asked.getD ProjectConfig.fileName

/-- The files and directories that a command reads. -/
def sources : Command → List String
  | .help | .version => []
  | .generate request => configPlace request.config :: request.inputs
  | .inspect request => [configPlace request.config, request.input]
  | .attributes request => [configPlace request.config]

/-- The files and directories that a command may write, given what its sources hold. -/
def targets (workspace : Workspace) : Command → List String
  | .help | .version | .inspect _ => []
  | .generate request =>
    match plan workspace request with
    | .ok plan => plan.directory :: plan.changes.map fun change => change.target plan.directory
    | .error _ => []
  | .attributes request => request.output.toList

end TypedClients.Command
