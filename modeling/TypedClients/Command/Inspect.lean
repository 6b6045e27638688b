import TypedClients.Client.Encode
import TypedClients.Command
import TypedClients.Command.Outcome
import TypedClients.Declaration.Files
import TypedClients.Extraction
import TypedClients.Json.Printer
import TypedClients.ProjectConfig.File

/-!
# Inspecting clients

The clients of a declaration file as generation sees them, each with its diagnostics, printed as
JSON.

Nothing is generated and nothing is written. Methods that are passed through are shown as well,
which a generated file has no trace of.
-/

namespace TypedClients.InspectRequest

open Command (Outcome)

/-- A client with its diagnostics. -/
def inspected (defaults : Defaults) (declared : ClassDeclaration) : Document :=
  let client := Extraction.extractClient declared defaults
  .record
    [("client", client.toDocument),
     ("diagnostics", .list ((Extraction.diagnostics client).map Diagnostic.toDocument))]

/-- Print the clients of a declaration file. -/
def run (workspace : Workspace) (request : InspectRequest) : Outcome :=
  match ProjectConfig.load workspace request.config with
  | .error fault => .failed workspace fault.message
  | .ok config =>
    match Declaration.load workspace request.input with
    | .error fault => .failed workspace fault.message
    | .ok classes =>
      .printed workspace
        (Json.pretty 0 (.list (classes.map (inspected config.defaults))) ++ "\n")

end TypedClients.InspectRequest
