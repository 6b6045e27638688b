import TypedClients.Command
import TypedClients.Command.Arguments

/-!
# Reading a command line

The first word names the command, and the words behind it are its arguments. Help may be asked
for before the command and among its arguments, the version only before it.

An option is known by its long name or by its letter. A word behind the command that is no option is
an input, of which each command takes its own number. Reading ends with the first word that does not
fit, or with the first one that asks for help: what stands behind it is not looked at.
-/

namespace TypedClients.Command

/-- The option that names a configuration file. -/
def configOption : OptionSpec := ⟨"config", none, .path⟩

/-- The arguments of a request for generated files. -/
def generateGrammar : Grammar where
  options :=
    [⟨"out-dir", some 'o', .path⟩, ⟨"check", none, .switch⟩, configOption,
     ⟨"no-common", none, .switch⟩]
  maxInputs := none

/-- The arguments of a request for the clients of a declaration file. -/
def inspectGrammar : Grammar where
  options := [configOption]
  maxInputs := some 1

/-- The arguments of a request for the attribute definitions. -/
def attributesGrammar : Grammar where
  options := [⟨"namespace", none, .text⟩, ⟨"out", some 'o', .path⟩, configOption]
  maxInputs := some 0

/-- A request for generated files. -/
def generateOf (arguments : Arguments) : Except Stop Command :=
  if arguments.inputs.isEmpty then .error (.fault .inputMissing)
  else .ok (.generate {
    inputs := arguments.inputs
    outputDirectory := arguments.value? "out-dir"
    check := arguments.has "check"
    config := arguments.value? "config"
    withoutAttributes := arguments.has "no-common" })

/-- A request for the clients of a declaration file. -/
def inspectOf (arguments : Arguments) : Except Stop Command :=
  match arguments.inputs with
  | [] => .error (.fault .inputMissing)
  | input :: _ => .ok (.inspect { input, config := arguments.value? "config" })

/-- A request for the attribute definitions. -/
def attributesOf (arguments : Arguments) : Except Stop Command :=
  .ok (.attributes {
    scope := arguments.value? "namespace"
    output := arguments.value? "out"
    config := arguments.value? "config" })

/-- The command of a name, with its words. -/
def named (name : String) (words : List String) : Except Stop Command :=
  match name with
  | "generate" => Arguments.ofWords generateGrammar words >>= generateOf
  | "inspect" => Arguments.ofWords inspectGrammar words >>= inspectOf
  | "attributes" => Arguments.ofWords attributesGrammar words >>= attributesOf
  | _ => .error (.fault (.commandUnknown name))

/-- The commands that help can be asked about. -/
def helpTopics : List String := ["generate", "inspect", "attributes", "help"]

/-- A request for help on a command, or on all of them. -/
def helpOn : List String → Except Stop Command
  | [] => .ok .help
  | [topic] =>
    if helpTopics.contains topic then .ok .help else .error (.fault (.commandUnknown topic))
  | topic :: other :: _ =>
    .error (.fault (.commandUnknown (if helpTopics.contains topic then other else topic)))

/-- What stands in front of a command: a request that needs none. -/
def leading (word : String) (words : List String) : Except Stop Command :=
  match word.toList with
  | '-' :: 'h' :: _ => .ok .help
  | '-' :: 'V' :: _ => .ok .version
  | ['-', '-'] =>
    match words with
    | [] => .ok .help
    | next :: _ => .error (.fault (.inputUnexpected next))
  | '-' :: _ :: _ =>
    if word = "--help" then .ok .help
    else if word = "--version" then .ok .version
    else .error (.fault (.optionUnknown word))
  | _ => named word words

/-- The command of a command line, or why the reading ends. No words ask for help. -/
def readWords : List String → Except Stop Command
  | [] => .ok .help
  | "help" :: topics => helpOn topics
  | word :: words => leading word words

/-- The command that the words of a command line ask for. -/
def ofWords (words : List String) : Except UsageFault Command :=
  match readWords words with
  | .ok command => .ok command
  | .error .help => .ok .help
  | .error (.fault fault) => .error fault

end TypedClients.Command
