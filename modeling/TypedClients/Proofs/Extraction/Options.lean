import Mathlib.Data.List.Forall2
import TypedClients.Proofs.Declaration
import TypedClients.Proofs.Extraction
import TypedClients.Proofs.ProjectConfig

/-!
# Options and their scopes

An option may be given by a method, by its class and by the project. The innermost scope that
gives one decides, and a scope whose value is of no use gives none. The scopes differ in what is
of use to them: a method gives a threshold only when it is positive, so that zero leaves the
choice to the class, while zero on a class is a choice and disables what the project set.

`Layered` says this of any list of scopes, from the innermost one outwards, and of the fallback
behind them. Each option is then an instance of it, with its own scopes and its own sense of what is
of use.
-/

namespace TypedClients.Extraction

/-! ## Layers -/

/-- The value of an option comes from the first scope that gives one, and is the fallback when
none does. A scope is the values that it gives. -/
inductive Layered {α : Type} (fallback : α) : List (α → Prop) → α → Prop where
  | fallback : Layered fallback [] fallback
  | given {scope : α → Prop} {outer : List (α → Prop)} {value : α} (gives : scope value) :
      Layered fallback (scope :: outer) value
  | left {scope : α → Prop} {outer : List (α → Prop)} {value : α}
      (silent : ∀ other, ¬ scope other) (rest : Layered fallback outer value) :
      Layered fallback (scope :: outer) value

variable {α : Type} {fallback : α}

/-- Without any layer the fallback is the value. -/
theorem layered_nil_iff {value : α} : Layered fallback [] value ↔ value = fallback := by
  constructor
  · rintro ⟨⟩
    rfl
  · rintro rfl
    exact .fallback

/-- A scope that gives one value at most goes before the value of the scopes around it. -/
theorem layered_cons_iff {scope : α → Prop} {outer : List (α → Prop)} {own : Option α} {rest : α}
    (gives : ∀ value, scope value ↔ own = some value)
    (outside : ∀ value, Layered fallback outer value ↔ value = rest) (value : α) :
    Layered fallback (scope :: outer) value ↔ value = own.getD rest := by
  constructor
  · rintro (_ | given | ⟨silent, left⟩)
    · simp [(gives value).mp given]
    · have none : own = none := Option.eq_none_iff_forall_ne_some.mpr fun other same =>
        silent other ((gives other).mpr same)
      simpa [none] using (outside value).mp left
  · rintro rfl
    cases given : own with
    | none =>
      refine .left (fun other holds => ?_) ((outside _).mpr rfl)
      simp [(gives other).mp holds] at given
    | some other => exact .given ((gives other).mpr given)

/-! ## Scopes -/

/-- A class gives an option by a named argument of the attribute that marks it. -/
def ClassGives (declared : ClassDeclaration) (key : String) (value : ArgumentValue) : Prop :=
  ∃ attr, Annotates declared.attributes "ApiClientGenerator" attr ∧ attr.Sets key value

/-- A method gives an option by what the attribute of its name begins with. -/
def MethodGives (declared : MethodDeclaration) (key : String) (value : ArgumentValue) : Prop :=
  ∃ attr, Annotates declared.attributes key attr ∧ attr.Begins value

/-- A value chooses a serializer when it is a literal or a symbol that names it. -/
def Chooses (value : ArgumentValue) (serializer : Serializer) : Prop :=
  ∃ symbol, (value = .literal symbol ∨ value = .symbol symbol) ∧ Names symbol serializer

/-- The scopes of the serializer of a method: the method, its class and the configuration. -/
def serializerScopes (text : String) (owner : ClassDeclaration) (declared : MethodDeclaration) :
    List (Serializer → Prop) :=
  [fun serializer => ∃ value, MethodGives declared "Serialization" value ∧ Chooses value serializer,
   fun serializer => ∃ value, ClassGives owner "Serialization" value ∧ Chooses value serializer,
   ProjectConfig.GivesSerializer text]

/-- The scopes of the threshold of a method, each with its integer, cut. -/
def thresholdScopes (text : String) (owner : ClassDeclaration) (declared : MethodDeclaration) :
    List (Nat → Prop) :=
  [fun threshold => 0 < threshold ∧ ∃ given,
     MethodGives declared "ConnectionTooLongWarn" (.int given) ∧ Clamped given threshold,
   fun threshold => ∃ given,
     ClassGives owner "ConnectionTooLongWarn" (.int given) ∧ Clamped given threshold,
   ProjectConfig.GivesThreshold text]

/-- The scopes of the flag for the modern runtime, which methods do not give. -/
def runtimeScopes (text : String) (owner : ClassDeclaration) : List (Bool → Prop) :=
  [fun flag => ClassGives owner "NetCore" (.bool flag), ProjectConfig.GivesRuntime text]

/-! ## What each scope gives -/

/-- The value that is found for an option of a class is the one that is given by the attribute that
marks the class. -/
theorem classOption?_eq_some_iff {declared : ClassDeclaration} {key : String}
    {value : ArgumentValue} :
    classOption? declared key = some value ↔ ClassGives declared key value := by
  simp only [classOption?, Option.bind_eq_some_iff, findAttribute?_eq_some_iff,
    Attribute.named?_eq_some_iff, ClassGives]

/-- The value that is found among the attributes of a method is what the first attribute of the name
begins with. -/
theorem attributeValue?_eq_some_iff {declared : MethodDeclaration} {key : String}
    {value : ArgumentValue} :
    attributeValue? declared.attributes key = some value ↔ MethodGives declared key value := by
  simp only [attributeValue?, Option.bind_eq_some_iff, findAttribute?_eq_some_iff,
    Attribute.positional?_eq_some_iff, MethodGives]

/-- A value is understood as a symbol when it is written as a literal or as a symbol. -/
theorem symbolic?_eq_some_iff {value : ArgumentValue} {symbol : String} :
    value.symbolic? = some symbol ↔ value = .literal symbol ∨ value = .symbol symbol := by
  cases value <;> simp [ArgumentValue.symbolic?]

/-- The serializer of a mode is the one that its option chooses. -/
theorem serializer?_eq_some_iff {option : Option ArgumentValue} {serializer : Serializer} :
    (serializationMode option).serializer? = some serializer ↔
      ∃ value, option = some value ∧ Chooses value serializer := by
  have used : serializationMode option = .use serializer ↔
      (option.bind ArgumentValue.symbolic?).bind SerializationMode.ofSymbol? =
        some (.use serializer) := by
    unfold serializationMode
    cases (option.bind ArgumentValue.symbolic?).bind SerializationMode.ofSymbol? <;> simp
  simp only [SerializationMode.serializer?_eq_some_iff, used, Option.bind_eq_some_iff,
    ofSymbol?_eq_use_iff, symbolic?_eq_some_iff, Chooses]
  constructor
  · rintro ⟨symbol, ⟨value, given, spelled⟩, names⟩
    exact ⟨value, given, symbol, spelled, names⟩
  · rintro ⟨value, given, symbol, spelled, names⟩
    exact ⟨symbol, ⟨value, given, spelled⟩, names⟩

/-- The threshold that an option gives is its integer, cut. -/
theorem threshold_eq_some_iff {option : Option ArgumentValue} {threshold : Nat} :
    (option.bind ArgumentValue.int?).map clampThreshold = some threshold ↔
      ∃ given, option = some (.int given) ∧ Clamped given threshold := by
  have integer (value : ArgumentValue) (given : Int64) :
      value.int? = some given ↔ value = .int given := by
    cases value <;> simp [ArgumentValue.int?]
  simp [Option.bind_eq_some_iff, integer, clampThreshold_eq_iff]

/-- The flag that an option gives is its truth value. -/
theorem flag_eq_some_iff {option : Option ArgumentValue} {flag : Bool} :
    option.bind ArgumentValue.bool? = some flag ↔ option = some (.bool flag) := by
  have truth (value : ArgumentValue) : value.bool? = some flag ↔ value = .bool flag := by
    cases value <;> simp [ArgumentValue.bool?]
  simp [Option.bind_eq_some_iff, truth]

/-- A class gives the serializer of its own mode. -/
theorem class_serializer_iff (owner : ClassDeclaration) (serializer : Serializer) :
    (∃ value, ClassGives owner "Serialization" value ∧ Chooses value serializer) ↔
      (serializationMode (classOption? owner "Serialization")).serializer? = some serializer := by
  simp only [serializer?_eq_some_iff, classOption?_eq_some_iff]

/-- A method gives the serializer of its own mode. -/
theorem method_serializer_iff (declared : MethodDeclaration) (serializer : Serializer) :
    (∃ value, MethodGives declared "Serialization" value ∧ Chooses value serializer) ↔
      (serializationMode (attributeValue? declared.attributes "Serialization")).serializer? =
        some serializer := by
  simp only [serializer?_eq_some_iff, attributeValue?_eq_some_iff]

/-- A class gives its integer for a threshold, be it zero. -/
theorem class_threshold_iff (owner : ClassDeclaration) (threshold : Nat) :
    (∃ given, ClassGives owner "ConnectionTooLongWarn" (.int given) ∧ Clamped given threshold) ↔
      ((classOption? owner "ConnectionTooLongWarn").bind ArgumentValue.int?).map clampThreshold =
        some threshold := by
  simp only [threshold_eq_some_iff, classOption?_eq_some_iff]

/-- A method gives its integer for a threshold when it is positive. -/
theorem method_threshold_iff (declared : MethodDeclaration) (threshold : Nat) :
    (0 < threshold ∧ ∃ given,
        MethodGives declared "ConnectionTooLongWarn" (.int given) ∧ Clamped given threshold) ↔
      (((attributeValue? declared.attributes "ConnectionTooLongWarn").bind
        ArgumentValue.int?).map clampThreshold).filter (0 < ·) = some threshold := by
  simp only [Option.filter_eq_some_iff, threshold_eq_some_iff, attributeValue?_eq_some_iff,
    decide_eq_true_eq, and_comm]

/-- A class gives its truth value for the modern runtime. -/
theorem class_runtime_iff (owner : ClassDeclaration) (flag : Bool) :
    ClassGives owner "NetCore" (.bool flag) ↔
      (classOption? owner "NetCore").bind ArgumentValue.bool? = some flag := by
  rw [flag_eq_some_iff, classOption?_eq_some_iff]

/-- A threshold that is not positive leaves the choice to the class. -/
theorem methodThreshold_eq (attributes : List Attribute) (classThreshold : Nat) :
    methodThreshold attributes classThreshold =
      ((((attributeValue? attributes "ConnectionTooLongWarn").bind ArgumentValue.int?).map
        clampThreshold).filter (0 < ·)).getD classThreshold := by
  unfold methodThreshold
  cases ((attributeValue? attributes "ConnectionTooLongWarn").bind ArgumentValue.int?).map
    clampThreshold with
  | none => simp
  | some own => by_cases positive : 0 < own <;> simp [Option.filter, positive]

/-! ## Resolved options -/

/-- The options of a client are those that the scopes give: with the values of the scopes there is
one value that an option can have, and it has that value. -/
structure ResolvesOptions (text : String) (owner : ClassDeclaration) (client : Client) : Prop where
  runtime : ∀ flag, Layered false (runtimeScopes text owner) flag ↔
    flag = client.targetsModernRuntime
  methods : List.Forall₂ (fun declared method =>
      (∀ serializer, Layered .newtonsoft (serializerScopes text owner declared) serializer ↔
        serializer = method.serializer) ∧
      ∀ threshold, Layered 0 (thresholdScopes text owner declared) threshold ↔
        threshold = method.slowCallThreshold)
    owner.methods client.methods

/-- Each option of a class and its methods comes from the innermost scope that gives one. The
serializer is that of the method, of the class or of the configuration, and else Newtonsoft; the
threshold is the positive one of the method, any one of the class or of the configuration, and
else zero; the flag for the modern runtime is that of the class or of the configuration, and else
it is off. -/
theorem options_are_layered {text : String} {config : ProjectConfig}
    (accepted : ProjectConfig.read text = .ok config) (owner : ClassDeclaration) :
    ResolvesOptions text owner (extractClient owner config.defaults) := by
  obtain ⟨serializer, threshold, flag, serializers, thresholds, flags, serializerIs, thresholdIs,
    flagIs⟩ := ProjectConfig.exists_given accepted
  -- From the project inwards, each scope goes before what is left of it.
  have projectSerializer (value : Serializer) :
      Layered .newtonsoft [ProjectConfig.GivesSerializer text] value ↔
        value = serializer.getD .newtonsoft :=
    layered_cons_iff serializers (fun _ => layered_nil_iff) value
  have projectThreshold (value : Nat) :
      Layered 0 [ProjectConfig.GivesThreshold text] value ↔ value = threshold.getD 0 :=
    layered_cons_iff thresholds (fun _ => layered_nil_iff) value
  have projectFlag (value : Bool) :
      Layered false [ProjectConfig.GivesRuntime text] value ↔ value = flag.getD false :=
    layered_cons_iff flags (fun _ => layered_nil_iff) value
  have classSerializer := layered_cons_iff (class_serializer_iff owner) projectSerializer
  have classThreshold := layered_cons_iff (class_threshold_iff owner) projectThreshold
  refine ⟨fun value => ?_, forall₂_image (fun declared => ⟨fun value => ?_, fun value => ?_⟩) _⟩
  · refine (layered_cons_iff (class_runtime_iff owner) projectFlag value).trans ?_
    rw [← flagIs]
    rfl
  · refine (layered_cons_iff (method_serializer_iff declared) classSerializer value).trans ?_
    rw [← serializerIs, ← SerializationMode.resolve_eq, ← SerializationMode.resolve_eq]
    rfl
  · refine (layered_cons_iff (method_threshold_iff declared) classThreshold value).trans ?_
    rw [← thresholdIs, ← methodThreshold_eq]
    rfl

/-- A configuration that sets every option. -/
def fullConfiguration : String :=
  "[generator]\nserialization = \"SystemTextJson\"\nnet-core = true\n" ++
    "connection-too-long-warn = 500\n"

/-- A class that disables the threshold, with a method that gives nothing of use, and one that
gives both of its options. -/
def disablingClass : ClassDeclaration where
  scope := ""
  imports := []
  name := "Store"
  attributes := [⟨"ApiClientGenerator", [⟨some "ConnectionTooLongWarn", .int (-1)⟩]⟩]
  methods :=
    [⟨"FirstAsync", "Task",
        [⟨"ConnectionTooLongWarn", [⟨none, .int 0⟩]⟩, ⟨"Serialization", [⟨none, .bool true⟩]⟩], []⟩,
     ⟨"SecondAsync", "Task",
        [⟨"connectionTooLongWarnAttribute", [⟨none, .int 20⟩]⟩,
          ⟨"Serialization", [⟨none, .symbol "Serialization. CUSTOM"⟩]⟩], []⟩]

/-- The class overrides the threshold of the project, and a method that of the class. -/
theorem options_of_disabling_class :
    ∃ config, ProjectConfig.read fullConfiguration = .ok config ∧
      ResolvesOptions fullConfiguration disablingClass
        (extractClient disablingClass config.defaults) ∧
      (extractClient disablingClass config.defaults).targetsModernRuntime = true ∧
      (extractClient disablingClass config.defaults).methods.map (fun method =>
          (method.serializer, method.slowCallThreshold)) =
        [(.systemTextJson, 0), (.custom, 20)] := by
  have accepted : ProjectConfig.read fullConfiguration = .ok
      { defaults := ⟨defaultRootNamespace, .systemTextJson, true, 500⟩
        outputDirectory := none } := by
    decide +kernel
  exact ⟨_, accepted, options_are_layered accepted disablingClass, rfl, by decide +kernel⟩

end TypedClients.Extraction
