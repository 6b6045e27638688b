import Mathlib.Data.List.Forall2
import TypedClients.ProjectConfig
import TypedClients.Proofs.Serialization

/-!
# What a configuration sets

A configuration that is accepted has each setting that its `generator` table has, and keeps the
standard for every other one. A text without that table sets nothing.

A setting is looked for in the table by its key and has to be of its type. `Sets` and what is made
of it say what a text sets, without going through the reading.
-/

namespace TypedClients

/-- What comes of a computation that may fail comes of both of its parts. -/
theorem bind_eq_ok {Fault First Second : Type} {first : Except Fault First}
    {next : First → Except Fault Second} {result : Second} :
    (first >>= next) = .ok result ↔ ∃ value, first = .ok value ∧ next value = .ok result := by
  cases first <;> simp [bind, Except.bind]

/-- Computations that may fail, one for each item, succeed together exactly when each one does, and
their results stand in the order of the items. -/
theorem mapM_eq_ok {Fault Item Result : Type} {compute : Item → Except Fault Result}
    {items : List Item} {results : List Result} :
    items.mapM compute = .ok results ↔
      List.Forall₂ (fun item result => compute item = .ok result) items results := by
  induction items generalizing results with
  | nil =>
    simp only [List.mapM_nil, List.forall₂_nil_left_iff]
    exact ⟨fun given => (Except.ok.inj given).symm, fun given => by rw [given]; rfl⟩
  | cons item items inductionHypothesis =>
    rw [List.mapM_cons]
    simp only [bind_eq_ok, List.forall₂_cons_left_iff]
    constructor
    · rintro ⟨result, computed, others, rest, given⟩
      exact ⟨result, others, computed, inductionHypothesis.mp rest, (Except.ok.inj given).symm⟩
    · rintro ⟨result, others, computed, rest, rfl⟩
      exact ⟨result, computed, others, inductionHypothesis.mpr rest, rfl⟩

/-- A computation whose fault is put in other words succeeds when it does by itself. -/
theorem mapError_eq_ok {First Second Result : Type} {wording : First → Second}
    {computed : Except First Result} {result : Result} :
    computed.mapError wording = .ok result ↔ computed = .ok result := by
  cases computed <;> simp [Except.mapError]

/-- A computation whose result is changed succeeds when it does by itself, with the changed result.
-/
theorem map_eq_ok {Fault First Second : Type} {change : First → Second}
    {computed : Except Fault First} {result : Second} :
    computed.map change = .ok result ↔ ∃ value, computed = .ok value ∧ change value = result := by
  cases computed <;> simp [Except.map]

namespace ProjectConfig

/-- A configuration text sets a key of its `generator` table to a value. -/
def Sets (text key : String) (value : Toml.Value) : Prop :=
  ∃ document generator, Toml.read text = some document ∧
    document.lookup "generator" = some (.table generator) ∧ generator.lookup key = some value

/-- A configuration text gives the serializer that its symbol names. -/
def GivesSerializer (text : String) (serializer : Serializer) : Prop :=
  ∃ symbol, Sets text "serialization" (.text symbol) ∧ Names symbol serializer

/-- A configuration text gives its integer, cut, for a threshold. -/
def GivesThreshold (text : String) (threshold : Nat) : Prop :=
  ∃ given, Sets text "connection-too-long-warn" (.integer given) ∧ Clamped given threshold

/-- A configuration text gives its truth value for the modern runtime. -/
def GivesRuntime (text : String) (flag : Bool) : Prop :=
  Sets text "net-core" (.bool flag)

variable {text key : String} {table : Toml.Table} {config : ProjectConfig}

/-- An accepted configuration is made of its `generator` table; where there is none, of an empty
one. -/
theorem exists_generator (accepted : read text = .ok config) :
    ∃ generator, ofGenerator generator = .ok config ∧
      ∀ key value, Sets text key value ↔ generator.lookup key = some value := by
  unfold read at accepted
  split at accepted
  · cases accepted
  · rename_i document parsed
    unfold ofTable at accepted
    unfold Sets
    split at accepted
    · rename_i absent
      refine ⟨[], accepted, ?_⟩
      simp [parsed, absent]
    · rename_i generator found
      refine ⟨generator, accepted, ?_⟩
      simp [parsed, found]
    · cases accepted

/-- What comes of looking for a setting: nothing is under its key, or a value that it is not made
of, or one that it is made of. -/
theorem setting?_cases {Setting : Type} (expected : SettingType)
    (ofValue? : Toml.Value → Option Setting) (table : Toml.Table) (key : String) :
    (table.lookup key = none ∧ setting? expected ofValue? table key = .ok none) ∨
    (∃ value, table.lookup key = some value ∧ ofValue? value = none ∧
      setting? expected ofValue? table key = .error (.wrongType key expected)) ∨
    ∃ value setting, table.lookup key = some value ∧ ofValue? value = some setting ∧
      setting? expected ofValue? table key = .ok (some setting) := by
  unfold setting?
  cases table.lookup key with
  | none => exact .inl ⟨rfl, rfl⟩
  | some value =>
    cases made : ofValue? value with
    | none => exact .inr (.inl ⟨value, rfl, made, by simp only [made]⟩)
    | some setting => exact .inr (.inr ⟨value, setting, rfl, made, by simp only [made]⟩)

/-- A setting is found exactly where the table has a value that it is made of. A table that was
accepted has no value of another type under the key. -/
theorem setting?_iff {Setting : Type} {expected : SettingType}
    {ofValue? : Toml.Value → Option Setting} {found : Option Setting}
    (accepted : setting? expected ofValue? table key = .ok found) (setting : Setting) :
    found = some setting ↔
      ∃ value, table.lookup key = some value ∧ ofValue? value = some setting := by
  obtain ⟨absent, result⟩ | ⟨_, _, _, result⟩ | ⟨value, other, stored, made, result⟩ :=
    setting?_cases expected ofValue? table key
  · cases accepted.symm.trans result
    simp [absent]
  · cases accepted.symm.trans result
  · cases accepted.symm.trans result
    simp [stored, made]

/-- A value is read as a text when it is that text. -/
theorem text?_eq_some_iff {value : Toml.Value} {text : String} :
    value.text? = some text ↔ value = .text text := by
  cases value <;> simp [Toml.Value.text?]

/-- A value is read as a flag when it is that flag. -/
theorem bool?_eq_some_iff {value : Toml.Value} {flag : Bool} :
    value.bool? = some flag ↔ value = .bool flag := by
  cases value <;> simp [Toml.Value.bool?]

/-- A value is read as an integer when it is that integer. -/
theorem integer?_eq_some_iff {value : Toml.Value} {number : Int64} :
    value.integer? = some number ↔ value = .integer number := by
  cases value <;> simp [Toml.Value.integer?]

/-- In a table whose setting is accepted, the setting that is found is the text that is there for
the key. -/
theorem textSetting?_iff {found : Option String} (accepted : textSetting? table key = .ok found)
    (value : String) : table.lookup key = some (.text value) ↔ found = some value := by
  simp [setting?_iff accepted, text?_eq_some_iff]

/-- In a table whose setting is accepted, the setting that is found is the flag that is there for
the key. -/
theorem boolSetting?_iff {found : Option Bool} (accepted : boolSetting? table key = .ok found)
    (value : Bool) : table.lookup key = some (.bool value) ↔ found = some value := by
  simp [setting?_iff accepted, bool?_eq_some_iff]

/-- In a table whose setting is accepted, the setting that is found is the integer that is there for
the key. -/
theorem integerSetting?_iff {found : Option Int64}
    (accepted : integerSetting? table key = .ok found) (value : Int64) :
    table.lookup key = some (.integer value) ↔ found = some value := by
  simp [setting?_iff accepted, integer?_eq_some_iff]

/-- A serialization setting chooses the serializer that its symbol names, and none when it names the
choice of the scope around. -/
theorem serializationSetting?_iff {mode : Option SerializationMode}
    (found : serializationSetting? table key = .ok mode) (serializer : Serializer) :
    (∃ symbol, table.lookup key = some (.text symbol) ∧ Names symbol serializer) ↔
      (mode.getD .inherit).serializer? = some serializer := by
  obtain ⟨given, stored, chosen⟩ := bind_eq_ok.mp found
  simp only [textSetting?_iff stored, ← ofSymbol?_eq_use_iff]
  cases given with
  | none =>
    cases chosen
    simp [SerializationMode.serializer?]
  | some symbol =>
    cases named : SerializationMode.ofSymbol? symbol with
    | none =>
      simp only [named] at chosen
      cases chosen
    | some other =>
      simp only [named] at chosen
      cases chosen
      simp [named, SerializationMode.serializer?_eq_some_iff]

/-- An accepted configuration gives at most one value for each option, and its defaults are these
values, or those of a project that sets nothing. -/
theorem exists_given (accepted : read text = .ok config) :
    ∃ (serializer : Option Serializer) (threshold : Option Nat) (flag : Option Bool),
      (∀ value, GivesSerializer text value ↔ serializer = some value) ∧
      (∀ value, GivesThreshold text value ↔ threshold = some value) ∧
      (∀ value, GivesRuntime text value ↔ flag = some value) ∧
      config.defaults.serializer = serializer.getD .newtonsoft ∧
      config.defaults.slowCallThreshold = threshold.getD 0 ∧
      config.defaults.modernRuntime = flag.getD false := by
  obtain ⟨generator, made, sets⟩ := exists_generator accepted
  unfold ofGenerator at made
  obtain ⟨_, _, made⟩ := bind_eq_ok.mp made
  obtain ⟨mode, serialization, made⟩ := bind_eq_ok.mp made
  obtain ⟨flag, modernRuntime, made⟩ := bind_eq_ok.mp made
  obtain ⟨number, slowCalls, made⟩ := bind_eq_ok.mp made
  obtain ⟨_, _, made⟩ := bind_eq_ok.mp made
  cases made
  refine ⟨(mode.getD .inherit).serializer?, number.map clampThreshold, flag, ?_, ?_, ?_,
    SerializationMode.resolve_eq _ _, rfl, rfl⟩
  · intro value
    simpa only [GivesSerializer, sets] using serializationSetting?_iff serialization value
  · intro value
    simp only [GivesThreshold, sets, integerSetting?_iff slowCalls, Option.map_eq_some_iff,
      clampThreshold_eq_iff]
  · intro value
    simpa only [GivesRuntime, sets] using boolSetting?_iff modernRuntime value

end ProjectConfig

end TypedClients
