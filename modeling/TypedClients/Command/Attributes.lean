import TypedClients.Command
import TypedClients.Command.Outcome
import TypedClients.GeneratedFile
import TypedClients.ProjectConfig.File

/-!
# Handing out the attribute definitions

The definitions are printed or written to a file. The configuration is read only when the request
names no namespace; the directory that it would be looked for in has to be there all the same.

A fault of the configuration, of the template and of the writing each end the run, in this order and
in their own words.
-/

namespace TypedClients.AttributesRequest

open Command (Outcome)

/-- The namespace of the definitions. -/
def scopeIn (workspace : Workspace) (request : AttributesRequest) :
    Except ProjectConfig.FileFault String := do
  let project ← ProjectConfig.projectDirectory workspace
  match request.scope with
  | some scope => return scope
  | none =>
    let config ← ProjectConfig.loadFrom workspace project request.config
    return config.defaults.rootNamespace

/-- Print the attribute definitions, or write them to a file. -/
def run (workspace : Workspace) (request : AttributesRequest) : Outcome :=
  match scopeIn workspace request with
  | .error fault => .failed workspace fault.message
  | .ok scope =>
    match generateAttributes scope with
    | .error fault => .failed workspace fault.message
    | .ok file =>
      match request.output with
      | none => .printed workspace file.text
      | some path =>
        match workspace.write path file.text with
        | .error fault =>
          .failed workspace ("Failed to write " ++ path ++ ": " ++ fault.message)
        | .ok workspace => .printed workspace ""

end TypedClients.AttributesRequest
