import TypedClients.Defaults
import TypedClients.Toml.Reader

/-!
# Project configuration

The `generator` table of a project's configuration file sets the defaults of generation and the
output directory. Every setting has one type; a setting that is missing keeps its default, and of
several wrong settings the first in a fixed order is reported. Keys beyond the settings, and other
tables, mean nothing.
-/

namespace TypedClients

/-- The settings of a project. -/
structure ProjectConfig where
  defaults : Defaults
  /-- The output directory, relative to the project. -/
  outputDirectory : Option String
deriving Repr, DecidableEq

namespace ProjectConfig

/-- The settings of a project without a configuration. -/
def standard : ProjectConfig where
  defaults := .standard
  outputDirectory := none

/-- What a setting has to be. -/
inductive SettingType where
  | text
  | bool
  | integer
deriving Repr, DecidableEq

/-- The name of a type of settings, with its article. -/
def SettingType.phrase : SettingType → String
  | .text => "a string"
  | .bool => "a boolean"
  | .integer => "an integer"

/-- Why a configuration is refused. -/
inductive Fault where
  /-- The text is no TOML. -/
  | notToml
  /-- The `generator` key does not lead to a table. -/
  | generatorNotTable
  /-- A setting has the wrong type. -/
  | wrongType (key : String) (expected : SettingType)
  /-- No serialization has the given name. -/
  | serializationUnknown (symbol : String)
deriving Repr, DecidableEq

/-- The wording of a fault. -/
def Fault.message : Fault → String
  | .notToml => "Failed to parse TOML"
  | .generatorNotTable => "`generator` must be a table"
  | .wrongType key expected => "`" ++ key ++ "` must be " ++ expected.phrase
  | .serializationUnknown symbol => "Unknown serialization mode '" ++ symbol ++ "'"

/-- What a table sets under a key, which has to be of the type of the setting. -/
def setting? {Setting : Type} (expected : SettingType) (ofValue? : Toml.Value → Option Setting)
    (table : Toml.Table) (key : String) : Except Fault (Option Setting) :=
  match table.lookup key with
  | none => .ok none
  | some value =>
    match ofValue? value with
    | some setting => .ok (some setting)
    | none => .error (.wrongType key expected)

/-- A text of a table. -/
def textSetting? : Toml.Table → String → Except Fault (Option String) :=
  setting? .text Toml.Value.text?

/-- A truth value of a table. -/
def boolSetting? : Toml.Table → String → Except Fault (Option Bool) :=
  setting? .bool Toml.Value.bool?

/-- An integer of a table. -/
def integerSetting? : Toml.Table → String → Except Fault (Option Int64) :=
  setting? .integer Toml.Value.integer?

/-- The serialization mode that a table names. -/
def serializationSetting? (table : Toml.Table) (key : String) :
    Except Fault (Option SerializationMode) := do
  match ← textSetting? table key with
  | none => return none
  | some symbol =>
    match SerializationMode.ofSymbol? symbol with
    | some mode => return some mode
    | none => throw (.serializationUnknown symbol)

/-- The settings of a `generator` table. -/
def ofGenerator (table : Toml.Table) : Except Fault ProjectConfig := do
  let rootNamespace ← textSetting? table "root-namespace"
  let mode ← serializationSetting? table "serialization"
  let modernRuntime ← boolSetting? table "net-core"
  let threshold ← integerSetting? table "connection-too-long-warn"
  let outputDirectory ← textSetting? table "out-dir"
  let standard := Defaults.standard
  let defaults : Defaults := {
    rootNamespace := rootNamespace.getD standard.rootNamespace
    serializer := standard.serializer
    modernRuntime := modernRuntime.getD standard.modernRuntime
    slowCallThreshold := (threshold.map clampThreshold).getD standard.slowCallThreshold }
  return { defaults := defaults.withSerialization (mode.getD .inherit), outputDirectory }

/-- The settings of a configuration. -/
def ofTable (document : Toml.Table) : Except Fault ProjectConfig :=
  match document.lookup "generator" with
  | none => .ok standard
  | some (.table generator) => ofGenerator generator
  | some _ => .error .generatorNotTable

/-- The settings of a configuration text. -/
def read (text : String) : Except Fault ProjectConfig :=
  match Toml.read text with
  | none => .error .notToml
  | some document => ofTable document

end ProjectConfig

end TypedClients
