import TypedClients.Declaration.Encode
import TypedClients.Declaration.Source
import TypedClients.Json.Printer
import TypedClients.Proofs.ProjectConfig

/-!
# Encoded declarations read back

Decoding asks a record for each of its fields by name. A record that was encoded has different
names, so each field is there once, or not at all when it was left out; what was left out is what
decoding puts in its place. The readings of a value, and the two of a document, are tried one
after the other, and none of them takes what was encoded for a later one.

The lemmas follow the nesting of declarations, from the value of an argument to a class, one for
each kind of record.
-/

namespace TypedClients.Declaration

/-! ## Records -/

section Records

variable {fields : List (String × Document)}

/-- An entry of a record stands for the field of its name, wherever the field is. -/
theorem filter_namesField (name : String) (position : Nat) (fields : List (String × Document)) :
    ((fields.map fun field => (Document.text field.1, field.2)).filter fun entry =>
        namesField name position entry.1) =
      (fields.filter fun field => field.1 == name).map fun field =>
        (Document.text field.1, field.2) := by
  rw [List.filter_map]
  rfl

/-- Among fields with different names at most one has a certain name. So the values for a name are
that of the field, or none. -/
theorem onlyValue_filter (distinct : (fields.map Prod.fst).Nodup) (name : String) :
    onlyValue ((fields.filter fun field => field.1 == name).map fun field =>
        (Document.text field.1, field.2)) = some (fields.lookup name) := by
  induction fields with
  | nil => rfl
  | cons field fields inductionHypothesis =>
    obtain ⟨key, value⟩ := field
    obtain ⟨first, others⟩ := List.nodup_cons.mp distinct
    by_cases same : key = name
    · subst same
      have alone : (fields.filter fun field => field.1 == key) = [] := by
        rw [List.filter_eq_nil_iff]
        intro field member named
        exact first (List.mem_map.mpr ⟨field, member, by simpa using named⟩)
      simp [alone, onlyValue]
    · have other : (name == key) = false := by simpa using Ne.symm same
      rw [List.filter_cons_of_neg (by simpa using same), inductionHypothesis others,
        List.lookup_cons, other]

/-- A record says about each field what stands under its name. No key of it is a position, and none
is given twice. -/
theorem slotsOfEntries_record (distinct : (fields.map Prod.fst).Nodup) (names : List String) :
    slotsOfEntries names (fields.map fun field => (.text field.1, field.2)) =
      some (names.map fun name => fields.lookup name) := by
  have keyed : ((fields.map fun field => (Document.text field.1, field.2)).all fun entry =>
      isFieldKey entry.1) = true := by
    simp [isFieldKey]
  rw [slotsOfEntries, if_pos keyed]
  simp only [filter_namesField, onlyValue_filter distinct]
  have named : (names.zipIdx.map fun field => fields.lookup field.1) =
      names.map fun name => fields.lookup name := by
    rw [← Function.comp_def (fun name => fields.lookup name) Prod.fst, ← List.map_map,
      List.zipIdx_map_fst]
  exact List.mapM_pure.trans (congrArg some named)

/-- A record with distinct field names says about each field what it has for it, and nothing about
the fields it does not have. -/
theorem slots_record (distinct : (fields.map Prod.fst).Nodup) (names : List String) :
    slots names (.record fields) = some (names.map fun name => fields.lookup name) :=
  slotsOfEntries_record distinct names

/-- A record with distinct field names, read as a mapping of one field, has what it says about this
field. -/
theorem onlyField?_record (distinct : (fields.map Prod.fst).Nodup) (name : String) :
    onlyField? name (.record fields) = fields.lookup name := by
  simp [onlyField?, Document.record, slotsOfEntries_record distinct]

end Records

/-- Items that read back one by one read back as a list. -/
theorem decodeList_map {Item : Type} {encode : Item → Document}
    {decodeItem : Document → Option Item}
    (each : ∀ item, decodeItem (encode item) = some item) (items : List Item) :
    decodeList decodeItem (.list (items.map encode)) = some items := by
  have same : decodeItem ∘ encode = fun item => pure item := funext each
  rw [decodeList, List.mapM_map, same, List.mapM_pure, List.map_id']
  rfl

/-! ## Declarations -/

/-- No value is taken for one of another kind, though the readings are tried one after the other:
what is encoded for one kind fails in those before. -/
theorem decodeArgumentValue_encode (value : ArgumentValue) :
    decodeArgumentValue (encodeArgumentValue value) = some value := by
  cases value with
  | bool value => rfl
  | int value =>
    have fits : Document.fitsSigned value.toInt = true := by
      have lower := value.le_toInt
      have upper := value.toInt_lt
      simp only [Document.fitsSigned, Bool.and_eq_true, decide_eq_true_eq]
      omega
    simp [encodeArgumentValue, decodeArgumentValue, fits]
  | literal text => rfl
  | symbol text => rfl

/-- A positional argument has no name in its record, and reads back without one, since a name that
is missing is none. -/
theorem decodeArgument_encode (argument : Argument) :
    decodeArgument (encodeArgument argument) = some argument := by
  obtain ⟨name, value⟩ := argument
  cases name with
  | none =>
    simp [encodeArgument, decodeArgument, slots_record, List.lookup_cons, defaulted, required,
      decodeArgumentValue_encode]
  | some name =>
    simp [encodeArgument, decodeArgument, slots_record, List.lookup_cons, defaulted, required,
      decodeOptional, decodeText, decodeArgumentValue_encode]

/-- An attribute is read back from its document. -/
theorem decodeAttribute_encode (attr : Attribute) :
    decodeAttribute (encodeAttribute attr) = some attr := by
  simp [encodeAttribute, decodeAttribute, slots_record, List.lookup_cons, defaulted, required,
    decodeText, decodeList_map decodeArgument_encode]

/-- A parameter is read back from its document, with its attributes. -/
theorem decodeParameter_encode (parameter : ParameterDeclaration) :
    decodeParameter (encodeParameter parameter) = some parameter := by
  simp [encodeParameter, decodeParameter, slots_record, List.lookup_cons, defaulted, required,
    decodeText, decodeList_map decodeAttribute_encode]

/-- A method is read back from its document, with its attributes and parameters. -/
theorem decodeMethod_encode (method : MethodDeclaration) :
    decodeMethod (encodeMethod method) = some method := by
  simp [encodeMethod, decodeMethod, slots_record, List.lookup_cons, defaulted, required, decodeText,
    decodeList_map decodeAttribute_encode, decodeList_map decodeParameter_encode]

/-- A class is read back from its document, with its attributes and methods. -/
theorem decodeClass_encode (declared : ClassDeclaration) :
    decodeClass (encodeClass declared) = some declared := by
  have each (text : String) : decodeText (.text text) = some text := rfl
  have imports : decodeList decodeText (.list (declared.imports.map .text)) =
      some declared.imports := decodeList_map each declared.imports
  simp [encodeClass, decodeClass, slots_record, List.lookup_cons, defaulted, required, decodeText,
    imports, decodeList_map decodeAttribute_encode, decodeList_map decodeMethod_encode]

/-! ## Documents -/

/-- A list of classes is found under its name. -/
theorem decode_encodeClients (classes : List ClassDeclaration) :
    decode (encodeClients classes) = some classes := by
  have found : decodeClients (encodeClients classes) = some classes := by
    simp [decodeClients, encodeClients, onlyField?_record, decodeList_map decodeClass_encode]
  simp [decode, found]

/-- A single class has no field for a list of classes. -/
theorem decodeClients_encodeClass (declared : ClassDeclaration) :
    decodeClients (encodeClass declared) = none := by
  simp [decodeClients, encodeClass, onlyField?_record, List.lookup_cons]

/-- A file that holds one class, and not a list of them, is read back as that class. Of the two
forms a file may have this is the one that is tried last. -/
theorem decode_encodeClass (declared : ClassDeclaration) :
    decode (encodeClass declared) = some [declared] := by
  simp [decode, decodeClients_encodeClass, decodeClass_encode]

/-- Of a JSON text only the document that it denotes counts. -/
theorem readJson_of_read {text : String} {document : Document}
    (denoted : Json.read text = .ok document) :
    readJson text = match decode document with
      | none => .error (.mismatch .json)
      | some classes => .ok classes := by
  obtain ⟨⟨first, rest⟩, read, denoted⟩ := bind_eq_ok.mp denoted
  obtain ⟨⟨⟩, ended, same⟩ := bind_eq_ok.mp denoted
  obtain rfl : first = document := Except.ok.inj same
  cases decoded : decode first <;> simp only [readJson, read, decoded, ended]

/-- A JSON text gives the declarations of the document that it denotes. -/
theorem readJson_eq_ok {text : String} {document : Document} {classes : List ClassDeclaration}
    (denoted : Json.read text = .ok document) (decoded : decode document = some classes) :
    readJson text = .ok classes := by
  rw [readJson_of_read denoted, decoded]

/-- Declarations survive being encoded. A list of classes decodes to the same list, and a class on
its own to the list of it alone; so does every JSON text that denotes what was encoded. -/
theorem encoded_declarations_read_back (text : String) :
    (∀ classes, decode (encodeClients classes) = some classes ∧
      (Json.read text = .ok (encodeClients classes) → readJson text = .ok classes)) ∧
    ∀ declared, decode (encodeClass declared) = some [declared] ∧
      (Json.read text = .ok (encodeClass declared) → readJson text = .ok [declared]) := by
  constructor
  · intro classes
    have decoded := decode_encodeClients classes
    exact ⟨decoded, fun denoted => readJson_eq_ok denoted decoded⟩
  · intro declared
    have decoded := decode_encodeClass declared
    exact ⟨decoded, fun denoted => readJson_eq_ok denoted decoded⟩

/-- A class the path of which is a symbol. -/
def collection : ClassDeclaration where
  scope := ""
  imports := []
  name := "Items"
  attributes := [⟨"Get", [⟨none, .symbol "Routes.Items"⟩]⟩]
  methods := []

/-- The text in which a class is written denotes it, and gives it back. -/
theorem collection_reads_back :
    Json.read (Json.compact (encodeClass collection)) = .ok (encodeClass collection) ∧
      readJson (Json.compact (encodeClass collection)) = .ok [collection] := by
  have denoted : Json.read (Json.compact (encodeClass collection)) =
      .ok (encodeClass collection) := by
    decide +kernel
  exact ⟨denoted, ((encoded_declarations_read_back _).2 collection).2 denoted⟩

end TypedClients.Declaration
