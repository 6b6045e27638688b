import TypedClients.Workspace

/-!
# Outcomes

What a run leaves behind: an exit code, what it printed as its output and as errors, and the
workspace as it is afterwards.

A command is a function from a workspace to an outcome. A failed one keeps the workspace that it has
come to, with what was written before the fault.
-/

namespace TypedClients.Command

/-- What a run leaves behind. -/
structure Outcome where
  exitCode : Nat
  output : String
  errors : String
  workspace : Workspace
deriving Repr, DecidableEq

namespace Outcome

/-- A run that printed its output and did nothing else. -/
def printed (workspace : Workspace) (output : String) : Outcome :=
  ⟨0, output, "", workspace⟩

/-- A run that failed with a message. -/
def failed (workspace : Workspace) (message : String) : Outcome :=
  ⟨1, "", message ++ "\n", workspace⟩

/-- A run whose words were not understood. -/
def refused (workspace : Workspace) (message : String) : Outcome :=
  ⟨2, "", message ++ "\n", workspace⟩

end Outcome

end TypedClients.Command
