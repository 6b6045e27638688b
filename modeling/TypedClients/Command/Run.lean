import TypedClients.Command.Attributes
import TypedClients.Command.Generate
import TypedClients.Command.Grammar
import TypedClients.Command.Inspect

/-!
# Running a command line

The words of a command line, the workspace that they are run in, and the outcome.

A command line that cannot be read ends with an exit code of its own. Neither then nor for help and
the version is the workspace looked at.
-/

namespace TypedClients.Command

/-- The name of the program with its version. -/
def versionLine : String := "clientgen 0.1.0\n"

/-- What the program can do. -/
def helpText : String :=
  String.join
    ["Generate typed C# HTTP clients from annotated class declarations\n\n",
     "Usage: clientgen [COMMAND]\n\n",
     "Commands:\n",
     "  generate    Generate client sources\n",
     "  inspect     Print the resolved clients and diagnostics as JSON\n",
     "  attributes  Print the shared attribute definitions\n",
     "  help        Print this message\n\n",
     "Options:\n",
     "  -h, --help     Print help\n",
     "  -V, --version  Print version\n"]

/-- Run a command. -/
def run (colors : Bool) (workspace : Workspace) : Command → Outcome
  | .help => .printed workspace helpText
  | .version => .printed workspace versionLine
  | .generate request => request.run colors workspace
  | .inspect request => request.run workspace
  | .attributes request => request.run workspace

/-- Run a command line. -/
def runWords (colors : Bool) (workspace : Workspace) (words : List String) : Outcome :=
  match ofWords words with
  | .ok command => run colors workspace command
  | .error fault => .refused workspace ("error: " ++ fault.message)

end TypedClients.Command
