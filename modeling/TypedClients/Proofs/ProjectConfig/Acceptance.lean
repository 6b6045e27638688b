import TypedClients.Proofs.Declaration
import TypedClients.Proofs.ProjectConfig

/-!
# Which configurations are accepted

The settings are looked at in a fixed order, and the first one that cannot be used is complained
about. So a configuration is accepted exactly when no setting gives cause to complain; then each
setting is what its own key says, or the standard where the key is missing, and nothing else in the
document counts.

`Examined` goes along the settings in their order and keeps, for each computation, which settings it
has looked at and what came of them. Acceptance, the values and the first complaint are all read off
at its end.
-/

namespace TypedClients.ProjectConfig

/-! ## Settings and complaints -/

/-- A setting of a project. -/
inductive Setting where
  | rootNamespace
  | serialization
  | modernRuntime
  | slowCallThreshold
  | outputDirectory
deriving Repr, DecidableEq

namespace Setting

/-- The key of a setting in the `generator` table. -/
def key : Setting → String
  | .rootNamespace => "root-namespace"
  | .serialization => "serialization"
  | .modernRuntime => "net-core"
  | .slowCallThreshold => "connection-too-long-warn"
  | .outputDirectory => "out-dir"

/-- What a setting has to be. -/
def type : Setting → SettingType
  | .rootNamespace | .serialization | .outputDirectory => .text
  | .modernRuntime => .bool
  | .slowCallThreshold => .integer

/-- The settings in the order in which they are looked at. -/
def order : List Setting :=
  [.rootNamespace, .serialization, .modernRuntime, .slowCallThreshold, .outputDirectory]

/-- What a project has for a setting. -/
abbrev Item : Setting → Type
  | .rootNamespace => String
  | .serialization => Serializer
  | .modernRuntime => Bool
  | .slowCallThreshold => Nat
  | .outputDirectory => Option String

/-- What a project that sets nothing has. -/
def standard : (setting : Setting) → setting.Item
  | .rootNamespace => "ApiClient.Generated"
  | .serialization => .newtonsoft
  | .modernRuntime => false
  | .slowCallThreshold => 0
  | .outputDirectory => none

end Setting

/-- The setting of a project. -/
def item (config : ProjectConfig) : (setting : Setting) → setting.Item
  | .rootNamespace => config.defaults.rootNamespace
  | .serialization => config.defaults.serializer
  | .modernRuntime => config.defaults.modernRuntime
  | .slowCallThreshold => config.defaults.slowCallThreshold
  | .outputDirectory => config.outputDirectory

/-- A value is of a type. -/
def HasType : SettingType → Toml.Value → Prop
  | .text, value => ∃ text, value = .text text
  | .bool, value => ∃ flag, value = .bool flag
  | .integer, value => ∃ number, value = .integer number

/-- What a value sets. A serialization that is inherited is the one of a project that sets
nothing. -/
def Reads : (setting : Setting) → Toml.Value → setting.Item → Prop
  | .rootNamespace, value, name => value = .text name
  | .serialization, value, serializer => ∃ symbol, value = .text symbol ∧
      (Names symbol serializer ∨ NamesMode symbol .inherit ∧ serializer = .newtonsoft)
  | .modernRuntime, value, flag => value = .bool flag
  | .slowCallThreshold, value, threshold =>
      ∃ milliseconds, value = .integer milliseconds ∧ Clamped milliseconds threshold
  | .outputDirectory, value, directory => ∃ path, value = .text path ∧ directory = some path

/-- What a document has for a setting. -/
def given? (document : Toml.Table) (setting : Setting) : Option Toml.Value :=
  match document.lookup "generator" with
  | some (.table generator) => generator.lookup setting.key
  | _ => none

/-- A setting is what its own key says, or what it is in a project that sets nothing. -/
inductive IsSet (document : Toml.Table) (setting : Setting) (item : setting.Item) : Prop where
  | kept (absent : given? document setting = none) (standard : item = setting.standard)
  | read {value : Toml.Value} (given : given? document setting = some value)
      (reads : Reads setting value item)

/-- A `generator` table whose settings are all of their types, with a serialization that names a
mode. -/
structure IsGenerator (generator : Toml.Table) : Prop where
  rootNamespace : ∀ value, generator.lookup "root-namespace" = some value →
    ∃ name, value = .text name
  serialization : ∀ value, generator.lookup "serialization" = some value →
    ∃ symbol mode, value = .text symbol ∧ NamesMode symbol mode
  modernRuntime : ∀ value, generator.lookup "net-core" = some value → ∃ flag, value = .bool flag
  slowCallThreshold : ∀ value, generator.lookup "connection-too-long-warn" = some value →
    ∃ milliseconds, value = .integer milliseconds
  outputDirectory : ∀ value, generator.lookup "out-dir" = some value → ∃ path, value = .text path

/-- What `generator` leads to, if it leads anywhere, is such a table. -/
def IsAcceptable (document : Toml.Table) : Prop :=
  ∀ value, document.lookup "generator" = some value →
    ∃ generator, value = .table generator ∧ IsGenerator generator

/-- What `generator` leads to is no table. -/
def LacksTable (document : Toml.Table) : Prop :=
  ∃ value, document.lookup "generator" = some value ∧ ∀ generator, value ≠ .table generator

/-- Why a value cannot be used for a setting, as it is worded. -/
inductive Complaint : Setting → Toml.Value → String → Prop where
  | wrongType {setting : Setting} {value : Toml.Value} (other : ¬ HasType setting.type value) :
      Complaint setting value ("`" ++ setting.key ++ "` must be " ++ setting.type.phrase)
  | unknownMode {symbol : String} (nameless : ∀ mode, ¬ NamesMode symbol mode) :
      Complaint .serialization (.text symbol) ("Unknown serialization mode '" ++ symbol ++ "'")

/-- What a `generator` table has under the key of a setting cannot be used. -/
def Objects (generator : Toml.Table) (setting : Setting) (message : String) : Prop :=
  ∃ value, generator.lookup setting.key = some value ∧ Complaint setting value message

/-- A setting gives cause to complain. -/
def Offends (generator : Toml.Table) (setting : Setting) : Prop :=
  ∃ message, Objects generator setting message

/-- A message says why a document is refused: `generator` leads to no table, or it is about the
first setting that gives cause to complain. -/
inductive IsRefusal (document : Toml.Table) : String → Prop where
  | noTable (lacks : LacksTable document) : IsRefusal document "`generator` must be a table"
  | setting {generator : Toml.Table} {setting : Setting} {message : String}
      (there : document.lookup "generator" = some (.table generator))
      (isFirst : IsFirst (Offends generator) Setting.order setting)
      (objects : Objects generator setting message) : IsRefusal document message

/-! ## Looking at settings -/

/-- What comes of looking at some settings in order: a complaint about the first that cannot be
used, or a result when there is none. -/
structure Examined {Result : Type} (generator : Toml.Table) (settings : List Setting)
    (result : Except Fault Result) : Prop where
  refused : ∀ fault, result = .error fault →
    ∃ setting, IsFirst (Offends generator) settings setting ∧
      Objects generator setting fault.message
  accepted : ∀ value, result = .ok value → ∀ setting ∈ settings, ¬ Offends generator setting

variable {generator : Toml.Table} {setting : Setting} {settings : List Setting}
  {First Second : Type}

/-- Where no setting is examined, nothing is asked for and nothing can be wrong. -/
theorem Examined.pure (result : Second) :
    Examined generator [] (Except.ok result : Except Fault Second) where
  refused fault given := by cases given
  accepted _ _ := fun _ member => absurd member List.not_mem_nil

/-- One setting is looked at before others: the first complaint is that of this setting if there is
one, and else the first of those behind it. -/
theorem Examined.bind {first : Except Fault First} {next : First → Except Fault Second}
    (one : Examined generator [setting] first)
    (behind : ∀ value, Examined generator settings (next value)) :
    Examined generator (setting :: settings) (first >>= next) := by
  cases found : first with
  | error fault =>
    refine ⟨fun other same => ?_, fun _ given => (by cases given)⟩
    obtain rfl : fault = other := Except.error.inj same
    obtain ⟨own, isFirst, objects⟩ := one.refused fault found
    obtain rfl := List.mem_singleton.mp isFirst.mem
    exact ⟨own, .head ⟨_, objects⟩, objects⟩
  | ok value =>
    have fine := one.accepted value found setting (List.mem_singleton_self setting)
    refine ⟨fun fault given => ?_, fun result given => ?_⟩
    · obtain ⟨own, isFirst, objects⟩ := (behind value).refused fault given
      exact ⟨own, isFirst.cons fine, objects⟩
    · exact List.forall_mem_cons.mpr ⟨fine, (behind value).accepted result given⟩

/-- A setting that cannot be used is refused with a complaint about it. -/
theorem Examined.of_complaint {value : Toml.Value} {fault : Fault}
    (found : generator.lookup setting.key = some value)
    (complaint : Complaint setting value fault.message) :
    Examined generator [setting] (.error fault : Except Fault First) := by
  have objects : Objects generator setting fault.message := ⟨value, found, complaint⟩
  refine ⟨fun other same => ?_, fun _ given => (by cases given)⟩
  obtain rfl : fault = other := Except.error.inj same
  exact ⟨setting, .head ⟨_, objects⟩, objects⟩

/-- A setting that is missing is accepted. -/
theorem Examined.of_absent {item : First} (absent : generator.lookup setting.key = none) :
    Examined generator [setting] (.ok item : Except Fault First) := by
  refine ⟨fun _ given => (by cases given), fun _ _ => List.forall_mem_singleton.mpr ?_⟩
  rintro ⟨message, value, found, -⟩
  cases absent.symm.trans found

/-- So is one with a value that there is no complaint about. -/
theorem Examined.of_fine {value : Toml.Value} {item : First}
    (found : generator.lookup setting.key = some value)
    (fine : ∀ message, ¬ Complaint setting value message) :
    Examined generator [setting] (.ok item : Except Fault First) := by
  refine ⟨fun _ given => (by cases given), fun _ _ => List.forall_mem_singleton.mpr ?_⟩
  rintro ⟨message, other, there, complaint⟩
  cases found.symm.trans there
  exact fine message complaint

/-- Any setting but the serialization may be any value of its type, so the only complaint about it
is that the type is another one. -/
theorem examined_setting? {Item : Type} {ofValue? : Toml.Value → Option Item}
    (typed : ∀ value, ofValue? value = none ↔ ¬ HasType setting.type value)
    (plain : setting ≠ .serialization) :
    Examined generator [setting] (setting? setting.type ofValue? generator setting.key) := by
  obtain ⟨absent, result⟩ | ⟨value, found, misfit, result⟩ | ⟨value, item, found, fits, result⟩ :=
    setting?_cases setting.type ofValue? generator setting.key
  · rw [result]
    exact .of_absent absent
  · rw [result]
    exact .of_complaint found (.wrongType ((typed value).mp misfit))
  · rw [result]
    refine .of_fine found fun message complaint => ?_
    cases complaint with
    | wrongType other => cases fits.symm.trans ((typed value).mpr other)
    | unknownMode _ => exact plain rfl

/-- A value is not read as a text when it is of another type. -/
theorem text?_eq_none_iff {value : Toml.Value} :
    value.text? = none ↔ ¬ HasType .text value := by
  cases value <;> simp [Toml.Value.text?, HasType]

/-- A value is not read as a flag when it is of another type. -/
theorem bool?_eq_none_iff {value : Toml.Value} :
    value.bool? = none ↔ ¬ HasType .bool value := by
  cases value <;> simp [Toml.Value.bool?, HasType]

/-- A value is not read as an integer when it is of another type. -/
theorem integer?_eq_none_iff {value : Toml.Value} :
    value.integer? = none ↔ ¬ HasType .integer value := by
  cases value <;> simp [Toml.Value.integer?, HasType]

/-- The serialization has to be a text, and one that names a mode. These are two complaints about
one setting, in this order. -/
theorem examined_serializationSetting? :
    Examined generator [.serialization] (serializationSetting? generator "serialization") := by
  unfold serializationSetting? textSetting?
  obtain ⟨absent, result⟩ | ⟨value, found, misfit, result⟩ | ⟨value, symbol, found, fits, result⟩ :=
    setting?_cases .text Toml.Value.text? generator "serialization"
  · rw [result]
    exact .of_absent absent
  · rw [result]
    exact .of_complaint found (.wrongType (text?_eq_none_iff.mp misfit))
  · obtain rfl : value = .text symbol := text?_eq_some_iff.mp fits
    simp only [result, bind, Except.bind]
    cases named : SerializationMode.ofSymbol? symbol with
    | none =>
      have nameless (mode : SerializationMode) : ¬ NamesMode symbol mode := fun names => by
        cases named.symm.trans (ofSymbol?_eq_some_iff.mpr names)
      exact .of_complaint found (.unknownMode nameless)
    | some mode =>
      refine .of_fine found fun message complaint => ?_
      cases complaint with
      | wrongType other => exact other ⟨symbol, rfl⟩
      | unknownMode nameless => exact nameless mode (ofSymbol?_eq_some_iff.mp named)

/-- A `generator` table is looked at setting by setting, in a fixed order that does not depend on
the order of the table. -/
theorem examined_ofGenerator (generator : Toml.Table) :
    Examined generator Setting.order (ofGenerator generator) := by
  have rootNamespace : Examined generator [.rootNamespace]
      (textSetting? generator "root-namespace") :=
    examined_setting? (fun _ => text?_eq_none_iff) (by decide)
  have modernRuntime : Examined generator [.modernRuntime] (boolSetting? generator "net-core") :=
    examined_setting? (fun _ => bool?_eq_none_iff) (by decide)
  have threshold : Examined generator [.slowCallThreshold]
      (integerSetting? generator "connection-too-long-warn") :=
    examined_setting? (fun _ => integer?_eq_none_iff) (by decide)
  have outputDirectory : Examined generator [.outputDirectory]
      (textSetting? generator "out-dir") :=
    examined_setting? (fun _ => text?_eq_none_iff) (by decide)
  exact rootNamespace.bind fun _ => examined_serializationSetting?.bind fun _ =>
    modernRuntime.bind fun _ => threshold.bind fun _ => outputDirectory.bind fun _ => .pure _

/-! ## What is accepted -/

/-- No setting of a table gives cause to complain exactly when the table is as it should be, setting
by setting. -/
theorem isGenerator_iff :
    IsGenerator generator ↔ ∀ setting ∈ Setting.order, ¬ Offends generator setting := by
  constructor
  · rintro fine setting - ⟨message, value, found, complaint⟩
    cases complaint with
    | wrongType other =>
      refine other ?_
      cases setting with
      | rootNamespace => exact fine.rootNamespace value found
      | serialization =>
        obtain ⟨symbol, _, text, _⟩ := fine.serialization value found
        exact ⟨symbol, text⟩
      | modernRuntime => exact fine.modernRuntime value found
      | slowCallThreshold => exact fine.slowCallThreshold value found
      | outputDirectory => exact fine.outputDirectory value found
    | unknownMode nameless =>
      obtain ⟨symbol, mode, text, names⟩ := fine.serialization _ found
      cases text
      exact nameless mode names
  · intro fine
    have typed (setting : Setting) (value : Toml.Value)
        (found : generator.lookup setting.key = some value) : HasType setting.type value := by
      by_contra other
      exact fine setting (by cases setting <;> decide) ⟨_, value, found, .wrongType other⟩
    refine ⟨typed .rootNamespace, fun value found => ?_, typed .modernRuntime,
      typed .slowCallThreshold, typed .outputDirectory⟩
    obtain ⟨symbol, rfl⟩ := typed .serialization value found
    by_contra nameless
    exact fine .serialization (by decide)
      ⟨_, _, found, .unknownMode fun mode names => nameless ⟨symbol, mode, rfl, names⟩⟩

/-! ## What is set -/

variable {document other : Toml.Table} {config otherConfig : ProjectConfig}

/-- What is given for a setting is found in the table for the generator, when the document has one.
-/
theorem given?_of_table (there : document.lookup "generator" = some (.table generator)) :
    given? document setting = generator.lookup setting.key := by
  simp [given?, there]

/-- What is found for a setting is made of the value of its key, and where nothing is found the
setting is the standard one. -/
theorem IsSet.of_setting? {Part : Type} {ofValue? : Toml.Value → Option Part}
    {expected : SettingType} {found : Option Part} {item : setting.Item}
    (there : document.lookup "generator" = some (.table generator))
    (accepted : setting? expected ofValue? generator setting.key = .ok found)
    (kept : found = none → item = setting.standard)
    (reads : ∀ value part, ofValue? value = some part → found = some part →
      Reads setting value item) :
    IsSet document setting item := by
  obtain ⟨absent, result⟩ | ⟨_, _, _, result⟩ | ⟨value, part, stored, made, result⟩ :=
    setting?_cases expected ofValue? generator setting.key
  · cases accepted.symm.trans result
    exact .kept ((given?_of_table there).trans absent) (kept rfl)
  · cases accepted.symm.trans result
  · cases accepted.symm.trans result
    exact .read ((given?_of_table there).trans stored) (reads value part made rfl)

/-- A symbol stands for the serializer of its mode, and no other value stands for one. -/
theorem reads_serialization_iff {value : Toml.Value} {serializer : Serializer} :
    Reads .serialization value serializer ↔ ∃ symbol mode, value = .text symbol ∧
      SerializationMode.ofSymbol? symbol = some mode ∧ mode.resolve .newtonsoft = serializer := by
  constructor
  · rintro ⟨symbol, text, names | ⟨inherits, rfl⟩⟩
    · exact ⟨symbol, .use serializer, text, ofSymbol?_eq_use_iff.mpr names, rfl⟩
    · exact ⟨symbol, .inherit, text, ofSymbol?_eq_some_iff.mpr inherits, rfl⟩
  · rintro ⟨symbol, mode, text, named, rfl⟩
    cases mode with
    | inherit => exact ⟨symbol, text, .inr ⟨ofSymbol?_eq_some_iff.mp named, rfl⟩⟩
    | use serializer => exact ⟨symbol, text, .inl (ofSymbol?_eq_use_iff.mp named)⟩

/-- The serializer of a project is the one of the mode that its symbol names, or the standard one.
-/
theorem IsSet.of_serializationSetting? {mode : Option SerializationMode}
    (there : document.lookup "generator" = some (.table generator))
    (accepted : serializationSetting? generator "serialization" = .ok mode) :
    IsSet document .serialization ((mode.getD .inherit).resolve .newtonsoft) := by
  obtain ⟨given, stored, chosen⟩ := bind_eq_ok.mp accepted
  refine .of_setting? there stored ?_ ?_
  · rintro rfl
    cases chosen
    rfl
  · rintro value symbol text rfl
    cases named : SerializationMode.ofSymbol? symbol with
    | none =>
      simp only [named] at chosen
      cases chosen
    | some choice =>
      simp only [named] at chosen
      cases chosen
      exact reads_serialization_iff.mpr ⟨symbol, choice, text?_eq_some_iff.mp text, named, rfl⟩

/-- Every setting of an accepted table is what its own key says. The settings are read one after the
other, and none is changed by a later one. -/
theorem isSet_of_ofGenerator (there : document.lookup "generator" = some (.table generator))
    (accepted : ofGenerator generator = .ok config) (setting : Setting) :
    IsSet document setting (config.item setting) := by
  unfold ofGenerator at accepted
  obtain ⟨rootNamespace, names, accepted⟩ := bind_eq_ok.mp accepted
  obtain ⟨mode, serializes, accepted⟩ := bind_eq_ok.mp accepted
  obtain ⟨flag, targets, accepted⟩ := bind_eq_ok.mp accepted
  obtain ⟨number, warns, accepted⟩ := bind_eq_ok.mp accepted
  obtain ⟨directory, writes, accepted⟩ := bind_eq_ok.mp accepted
  cases accepted
  cases setting with
  | rootNamespace =>
    refine .of_setting? there names (by rintro rfl; rfl) ?_
    rintro value name text rfl
    exact text?_eq_some_iff.mp text
  | serialization => exact .of_serializationSetting? there serializes
  | modernRuntime =>
    refine .of_setting? there targets (by rintro rfl; rfl) ?_
    rintro value truth isBool rfl
    exact bool?_eq_some_iff.mp isBool
  | slowCallThreshold =>
    refine .of_setting? there warns (by rintro rfl; rfl) ?_
    rintro value milliseconds isInteger rfl
    exact ⟨milliseconds, integer?_eq_some_iff.mp isInteger, clampThreshold_eq_iff.mp rfl⟩
  | outputDirectory =>
    refine .of_setting? there writes (by rintro rfl; rfl) ?_
    rintro value path text rfl
    exact ⟨path, text?_eq_some_iff.mp text, rfl⟩

/-- A value sets one thing only, so that two accepted configurations with the same value under a key
have the same setting. -/
theorem Reads.unique {value : Toml.Value} {first second : setting.Item}
    (one : Reads setting value first) (two : Reads setting value second) : first = second := by
  cases setting with
  | rootNamespace => exact Toml.Value.text.inj (one.symm.trans two)
  | serialization =>
    obtain ⟨symbol, mode, rfl, named, rfl⟩ := reads_serialization_iff.mp one
    obtain ⟨_, otherMode, same, otherNamed, rfl⟩ := reads_serialization_iff.mp two
    cases same
    rw [Option.some.inj (named.symm.trans otherNamed)]
  | modernRuntime => exact Toml.Value.bool.inj (one.symm.trans two)
  | slowCallThreshold =>
    obtain ⟨milliseconds, rfl, clamped⟩ := one
    obtain ⟨_, same, otherClamped⟩ := two
    cases same
    exact (clampThreshold_eq_iff.mpr clamped).symm.trans (clampThreshold_eq_iff.mpr otherClamped)
  | outputDirectory =>
    obtain ⟨path, rfl, rfl⟩ := one
    obtain ⟨_, same, rfl⟩ := two
    cases same
    rfl

/-- A setting is one thing only, and what a document has for it decides what it is. The two
documents may differ in everything else. -/
theorem IsSet.unique {first second : setting.Item} (one : IsSet document setting first)
    (two : IsSet other setting second) (same : given? document setting = given? other setting) :
    first = second := by
  cases one with
  | kept absent standard =>
    cases two with
    | kept _ otherStandard => exact standard.trans otherStandard.symm
    | read given _ => cases absent.symm.trans (same.trans given)
  | read given reads =>
    cases two with
    | kept absent _ => cases given.symm.trans (same.trans absent)
    | read otherGiven otherReads =>
      cases given.symm.trans (same.trans otherGiven)
      exact reads.unique otherReads

/-! ## Documents -/

/-- Unless `generator` leads to no table, the document is read as one; where it leads nowhere, as
an empty one. -/
theorem exists_table (has : ¬ LacksTable document) :
    ∃ generator, ofTable document = ofGenerator generator ∧
      ∀ setting, given? document setting = generator.lookup setting.key := by
  unfold ofTable
  cases there : document.lookup "generator" with
  | none => exact ⟨[], rfl, fun setting => by simp [given?, there]⟩
  | some value =>
    cases value with
    | table generator => exact ⟨generator, rfl, fun setting => given?_of_table there⟩
    | _ => exact absurd ⟨_, there, nofun⟩ has

/-- Only what a document has for the settings counts. Two documents that agree in that are read
alike, whether they are accepted or refused. -/
theorem ofTable_congr (has : ¬ LacksTable document) (otherHas : ¬ LacksTable other)
    (same : ∀ setting, given? document setting = given? other setting) :
    ofTable document = ofTable other := by
  obtain ⟨generator, made, given⟩ := exists_table has
  obtain ⟨otherGenerator, otherMade, otherGiven⟩ := exists_table otherHas
  have agree (setting : Setting) :
      generator.lookup setting.key = otherGenerator.lookup setting.key :=
    (given setting).symm.trans ((same setting).trans (otherGiven setting))
  rw [made, otherMade]
  unfold ofGenerator serializationSetting? textSetting? boolSetting? integerSetting? setting?
  have rootNamespace := agree .rootNamespace
  have serialization := agree .serialization
  have modernRuntime := agree .modernRuntime
  have slowCallThreshold := agree .slowCallThreshold
  have outputDirectory := agree .outputDirectory
  simp only [Setting.key] at *
  simp only [rootNamespace, serialization, modernRuntime, slowCallThreshold, outputDirectory]

/-- Each setting of an accepted document is set as the document gives it, or is the standard one
where the document gives nothing. -/
theorem isSet_of_ofTable (accepted : ofTable document = .ok config) (setting : Setting) :
    IsSet document setting (config.item setting) := by
  unfold ofTable at accepted
  split at accepted
  · rename_i absent
    cases accepted
    exact .kept (by simp [given?, absent]) (by cases setting <;> rfl)
  · rename_i generator there
    exact isSet_of_ofGenerator there accepted setting
  · cases accepted

/-- A document that is accepted was acceptable: no setting of it has a value that it must not have.
-/
theorem isAcceptable_of_ofTable (accepted : ofTable document = .ok config) :
    IsAcceptable document := by
  intro value there
  unfold ofTable at accepted
  split at accepted
  · rename_i absent
    cases absent.symm.trans there
  · rename_i generator found
    cases found.symm.trans there
    exact ⟨generator, rfl,
      isGenerator_iff.mpr ((examined_ofGenerator generator).accepted config accepted)⟩
  · cases accepted

/-- A document that is refused is refused for its first complaint, in the words for it. There may be
other complaints behind that one. -/
theorem isRefusal_of_ofTable {fault : Fault} (refused : ofTable document = .error fault) :
    IsRefusal document fault.message := by
  unfold ofTable at refused
  split at refused
  · cases refused
  · rename_i generator there
    obtain ⟨setting, isFirst, objects⟩ := (examined_ofGenerator generator).refused fault refused
    exact .setting there isFirst objects
  · rename_i value noTable there
    cases refused
    exact .noTable ⟨value, there, noTable⟩

/-- No document is refused and acceptable at once, so the two sides of the reading stay apart. -/
theorem IsRefusal.not_isAcceptable {message : String} (refusal : IsRefusal document message) :
    ¬ IsAcceptable document := by
  intro acceptable
  cases refusal with
  | noTable lacks =>
    obtain ⟨value, there, noTable⟩ := lacks
    obtain ⟨generator, same, _⟩ := acceptable value there
    exact noTable generator same
  | setting there isFirst _ =>
    obtain ⟨generator, same, fine⟩ := acceptable _ there
    cases same
    exact isGenerator_iff.mp fine _ isFirst.mem isFirst.holds

/-- A configuration is accepted exactly when `generator` is missing or a table whose settings are
of their types, with a serialization that names a mode. Every setting is then what its own key
says, or the standard: nothing but its own key decides it, in any two accepted configurations,
and nothing but the five keys decides what a configuration comes to. The first setting that cannot
be used is complained about. -/
theorem configuration_is_read (document : Toml.Table) :
    ((∃ config, ofTable document = .ok config) ↔ IsAcceptable document) ∧
    (∀ config, ofTable document = .ok config →
      ∀ setting, IsSet document setting (config.item setting)) ∧
    (∀ other config otherConfig setting, ofTable document = .ok config →
      ofTable other = .ok otherConfig → given? document setting = given? other setting →
      config.item setting = otherConfig.item setting) ∧
    (∀ other, ¬ LacksTable document → ¬ LacksTable other →
      (∀ setting, given? document setting = given? other setting) →
      ofTable document = ofTable other) ∧
    (∀ fault, ofTable document = .error fault → IsRefusal document fault.message) ∧
    ∀ text, Toml.read text = some document → read text = ofTable document := by
  refine ⟨⟨?_, fun acceptable => ?_⟩, fun config => isSet_of_ofTable, ?_,
    fun other => ofTable_congr, fun fault => isRefusal_of_ofTable, fun text parsed => ?_⟩
  · rintro ⟨config, accepted⟩
    exact isAcceptable_of_ofTable accepted
  · cases outcome : ofTable document with
    | ok config => exact ⟨config, rfl⟩
    | error fault => exact absurd acceptable (isRefusal_of_ofTable outcome).not_isAcceptable
  · intro other config otherConfig setting accepted otherAccepted same
    exact (isSet_of_ofTable accepted setting).unique (isSet_of_ofTable otherAccepted setting) same
  · unfold read
    rw [parsed]

/-- A configuration with one setting. -/
def shop : Toml.Table := [("generator", .table [("serialization", .text "Custom")])]

/-- The same setting among others, with a key and a table that mean nothing. -/
def depot : Toml.Table :=
  [("colours", .table []), ("generator", .table [("net-core", .bool true), ("colour", .integer 3),
    ("serialization", .text "Custom"), ("connection-too-long-warn", .integer (-10))])]

/-- Two settings that cannot be used, the second one looked at before the first. -/
def market : Toml.Table :=
  [("generator", .table [("net-core", .integer 1), ("serialization", .text "Yaml")])]

/-- What is read of these configurations: the shop keeps the standard for what it does not set, the
depot has the same serializer, and of the market the serialization is complained about. -/
theorem shop_is_read :
    (∃ config otherConfig, read "[generator]\nserialization = \"Custom\"\n" = .ok config ∧
      ofTable depot = .ok otherConfig ∧
      IsSet shop .slowCallThreshold (config.item .slowCallThreshold) ∧
      config.item .serialization = otherConfig.item .serialization) ∧
    ofTable shop = ofTable (("colours", .table []) :: shop) ∧
    IsRefusal market "Unknown serialization mode 'Yaml'" := by
  obtain ⟨-, settings, frame, congr, -, reads⟩ := configuration_is_read shop
  have parsed : Toml.read "[generator]\nserialization = \"Custom\"\n" = some shop := by
    decide +kernel
  have accepted : ofTable shop = .ok { ProjectConfig.standard with
      defaults := { Defaults.standard with serializer := .custom } } := by decide
  have otherAccepted : ofTable depot = .ok { ProjectConfig.standard with
      defaults := { Defaults.standard with serializer := .custom, modernRuntime := true } } := by
    decide
  refine ⟨⟨_, _, (reads _ parsed).trans accepted, otherAccepted, settings _ accepted _,
    frame depot _ _ .serialization accepted otherAccepted rfl⟩, ?_, ?_⟩
  · have has (document : Toml.Table) (there : document.lookup "generator" =
        some (.table [("serialization", .text "Custom")])) : ¬ LacksTable document := by
      rintro ⟨value, found, noTable⟩
      exact noTable _ (Option.some.inj (found.symm.trans there))
    exact congr _ (has _ rfl) (has _ rfl) fun _ => rfl
  · obtain ⟨-, -, -, -, refuses, -⟩ := configuration_is_read market
    exact refuses (.serializationUnknown "Yaml") (by decide)

end TypedClients.ProjectConfig
