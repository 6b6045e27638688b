/-!
# Arguments of a command

The words behind a command are options and other words, in any order. An option has a long name
behind two dashes and perhaps a letter behind one; it may take a value, behind an equals sign, as
the next word, or right behind its letter. A word with a dash in front is always an option, except
for the dash alone, until two dashes alone end the options. No option is given twice, and a path
is never empty.
-/

namespace TypedClients.Command

/-- What stands behind an option. -/
inductive OptionKind where
  /-- Nothing: the option is there or not. -/
  | switch
  | text
  | path
deriving Repr, DecidableEq

/-- An option of a command. -/
structure OptionSpec where
  name : String
  letter : Option Char
  kind : OptionKind
deriving Repr, DecidableEq

/-- What words a command understands. -/
structure Grammar where
  options : List OptionSpec
  /-- The largest number of words that are no options; without it there may be any number. -/
  maxInputs : Option Nat
deriving Repr, DecidableEq

/-- Why words are not understood. -/
inductive UsageFault where
  | commandUnknown (word : String)
  | optionUnknown (word : String)
  | inputUnexpected (word : String)
  | inputMissing
  | valueMissing (option : String)
  | valueUnexpected (option : String)
  | optionRepeated (option : String)
  | pathEmpty
deriving Repr, DecidableEq

/-- The wording of a fault. -/
def UsageFault.message : UsageFault → String
  | .commandUnknown word => "unrecognized subcommand '" ++ word ++ "'"
  | .optionUnknown word => "unexpected argument '" ++ word ++ "' found"
  | .inputUnexpected word => "unexpected argument '" ++ word ++ "' found"
  | .inputMissing => "an input is required but none was given"
  | .valueMissing option => "a value is required for '--" ++ option ++ "' but none was supplied"
  | .valueUnexpected option => "'--" ++ option ++ "' takes no value"
  | .optionRepeated option => "'--" ++ option ++ "' cannot be used multiple times"
  | .pathEmpty => "a path cannot be empty"

/-- Why the reading of words ends before the last one. -/
inductive Stop where
  /-- Help was asked for. -/
  | help
  | fault (fault : UsageFault)
deriving Repr, DecidableEq

/-- The words of a command, sorted. -/
structure Arguments where
  /-- The options with their values; a switch has none. -/
  options : List (String × Option String)
  inputs : List String
  /-- An option that waits for its value. -/
  waiting : Option OptionSpec
  /-- Whether the options have ended. -/
  optionsEnded : Bool
deriving Repr, DecidableEq

namespace Arguments

/-- No words. -/
def none : Arguments := ⟨[], [], Option.none, false⟩

/-- The value of an option. -/
def value? (arguments : Arguments) (option : String) : Option String :=
  (arguments.options.lookup option).bind id

/-- Whether an option was given. -/
def has (arguments : Arguments) (option : String) : Bool :=
  (arguments.options.lookup option).isSome

/-- Note an option. -/
def note (arguments : Arguments) (option : OptionSpec) (value : Option String) :
    Except Stop Arguments :=
  if option.kind = .path ∧ value = some "" then .error (.fault .pathEmpty)
  else if arguments.has option.name then .error (.fault (.optionRepeated option.name))
  else .ok { arguments with
    options := arguments.options ++ [(option.name, value)], waiting := Option.none }

/-- Note an option that is written without a value: a switch, or an option whose value is the
next word. -/
def noteBare (arguments : Arguments) (option : OptionSpec) : Except Stop Arguments :=
  if option.kind = .switch then arguments.note option Option.none
  else .ok { arguments with waiting := some option }

/-- Note a word that is no option. -/
def noteInput (arguments : Arguments) (grammar : Grammar) (word : String) :
    Except Stop Arguments :=
  if grammar.maxInputs.any fun most => most ≤ arguments.inputs.length then
    .error (.fault (.inputUnexpected word))
  else if word.isEmpty then .error (.fault .pathEmpty)
  else .ok { arguments with inputs := arguments.inputs ++ [word] }

/-- Note a word that starts with two dashes, from what stands behind them. -/
def noteLong (arguments : Arguments) (grammar : Grammar) (word : List Char) :
    Except Stop Arguments :=
  let name := String.ofList (word.takeWhile (· != '='))
  match word.dropWhile (· != '='), grammar.options.find? (fun option => option.name == name) with
  | [], Option.none =>
    if name = "help" then .error .help else .error (.fault (.optionUnknown ("--" ++ name)))
  | _ :: _, Option.none =>
    if name = "help" then .error (.fault (.valueUnexpected name))
    else .error (.fault (.optionUnknown ("--" ++ name)))
  | [], some option => arguments.noteBare option
  | _ :: value, some option =>
    if option.kind = .switch then .error (.fault (.valueUnexpected name))
    else arguments.note option (some (String.ofList value))

/-- Note a word that starts with one dash, from what stands behind it. -/
def noteShort (arguments : Arguments) (grammar : Grammar) (letter : Char) (behind : List Char) :
    Except Stop Arguments :=
  match grammar.options.find? (fun option => option.letter == some letter), behind with
  | Option.none, _ =>
    if letter = 'h' then .error .help
    else .error (.fault (.optionUnknown (String.ofList ['-', letter])))
  | some option, [] => arguments.noteBare option
  | some option, '=' :: value => arguments.note option (some (String.ofList value))
  | some option, value => arguments.note option (some (String.ofList value))

/-- Take the next word. -/
def take (grammar : Grammar) (arguments : Arguments) (word : String) :
    Except Stop Arguments :=
  let refused (option : OptionSpec) : Except Stop Arguments :=
    .error (.fault (.valueMissing option.name))
  if arguments.optionsEnded then arguments.noteInput grammar word
  else match word.toList, arguments.waiting with
    | ['-', '-'], Option.none => .ok { arguments with optionsEnded := true }
    | '-' :: '-' :: long, Option.none => arguments.noteLong grammar long
    | '-' :: letter :: behind, Option.none => arguments.noteShort grammar letter behind
    | _, Option.none => arguments.noteInput grammar word
    | '-' :: _ :: _, some option => refused option
    | _, some option => arguments.note option (some word)

/-- Sort the words of a command. -/
def ofWords (grammar : Grammar) (words : List String) : Except Stop Arguments := do
  let arguments ← words.foldlM (take grammar) none
  match arguments.waiting with
  | some option => throw (.fault (.valueMissing option.name))
  | Option.none => return arguments

end Arguments

end TypedClients.Command
