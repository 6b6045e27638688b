import Mathlib.Logic.Relation
import TypedClients.Entries
import TypedClients.Proofs.Declaration.ReadBack

/-!
# Rearranged documents

What a member of a mapping means depends on its key and on the place where the mapping stands, never
on the members around it. So a document may have its members in any order, and further members
whose keys mean nothing where they stand; it is accepted or not as before, and gives the same
classes. That several readings of a value are tried in turn makes no difference: each of them fails
or succeeds as it did.

Two documents differ in layout when single changes, in either direction and anywhere in a document,
lead from one to the other. What is carried through a change is that the document is read alike at
its place, for which each kind of record says that its reading depends on what is said about its
fields and on nothing else.
-/

namespace TypedClients.Declaration

/-! ## Places -/

/-- What stands at a place in a document. -/
inductive Place where
  | file
  | declaredClass
  | method
  | parameter
  | attr
  | argument
  | argumentValue
  | text
  /-- A text or null. -/
  | optionalText
  | list (item : Place)
  /-- Anything: no declaration is made of it. -/
  | unused
deriving Repr, DecidableEq

namespace Place

/-- The members that a mapping at a place may have, in their order, and where their values stand. -/
def members : Place → List (String × Place)
  | .file =>
    [("clients", .list .declaredClass),
     ("namespace", .text), ("imports", .list .text), ("name", .text),
     ("attributes", .list .attr), ("methods", .list .method)]
  | .declaredClass =>
    [("namespace", .text), ("imports", .list .text), ("name", .text),
     ("attributes", .list .attr), ("methods", .list .method)]
  | .method =>
    [("name", .text), ("returnType", .text), ("attributes", .list .attr),
     ("parameters", .list .parameter)]
  | .parameter => [("name", .text), ("type", .text), ("attributes", .list .attr)]
  | .attr => [("name", .text), ("args", .list .argument)]
  | .argument => [("name", .optionalText), ("value", .argumentValue)]
  | .argumentValue => [("symbol", .text)]
  | .text | .optionalText | .list _ | .unused => []

/-- Where the value under a key stands. -/
def member (place : Place) (key : String) : Place :=
  (place.members.lookup key).getD .unused

/-- Where the item of a list stands. A list in place of a mapping gives the values of its members in
their order; that of a file gives the values of a class. -/
def item : Place → Nat → Place
  | .list item, _ => item
  | .file, position => ((declaredClass.members.map Prod.snd)[position]?).getD .unused
  | place, position => ((place.members.map Prod.snd)[position]?).getD .unused

end Place

/-- One change of the layout of a document at a place: the members of a mapping are reordered, one
that means nothing is added, or the change is made further inside. -/
inductive Rearrangement : Place → Document → Document → Prop where
  | reorder {place : Place} {entries others : List (Document × Document)}
      (perm : entries.Perm others) : Rearrangement place (.mapping entries) (.mapping others)
  | add {place : Place} {entries : List (Document × Document)} {key : String} {value : Document}
      (unused : key ∉ place.members.map Prod.fst) :
      Rearrangement place (.mapping entries) (.mapping ((.text key, value) :: entries))
  | inMember {place : Place} {before after : List (Document × Document)} {key : String}
      {value other : Document} (inner : Rearrangement (place.member key) value other) :
      Rearrangement place (.mapping (before ++ (.text key, value) :: after))
        (.mapping (before ++ (.text key, other) :: after))
  | inItem {place : Place} {before after : List Document} {item other : Document}
      (inner : Rearrangement (place.item before.length) item other) :
      Rearrangement place (.list (before ++ item :: after)) (.list (before ++ other :: after))

/-- Two documents differ in layout only: any number of changes leads from one to the other. -/
def SameButLayout : Document → Document → Prop :=
  Relation.EqvGen (Rearrangement .file)

/-! ## Readings of a place -/

/-- What is made of a document at a place. -/
abbrev Place.Result : Place → Type
  | .file => List ClassDeclaration
  | .declaredClass => ClassDeclaration
  | .method => MethodDeclaration
  | .parameter => ParameterDeclaration
  | .attr => Attribute
  | .argument => Argument
  | .argumentValue => ArgumentValue
  | .text => String
  | .optionalText => Option String
  | .list item => List item.Result
  | .unused => Unit

/-- How a document at a place is decoded. -/
def Place.reading : (place : Place) → Document → Option place.Result
  | .file => decode
  | .declaredClass => decodeClass
  | .method => decodeMethod
  | .parameter => decodeParameter
  | .attr => decodeAttribute
  | .argument => decodeArgument
  | .argumentValue => decodeArgumentValue
  | .text => decodeText
  | .optionalText => decodeOptional decodeText
  | .list item => decodeList item.reading
  | .unused => fun _ => some ()

/-- What two documents say about fields at some places is decoded alike, field by field. -/
inductive SlotsAlike : List Place → List (Option Document) → List (Option Document) → Prop where
  | nil : SlotsAlike [] [] []
  | cons {place : Place} {places : List Place} {slot other : Option Document}
      {slots others : List (Option Document)}
      (alike : slot.map place.reading = other.map place.reading)
      (rest : SlotsAlike places slots others) :
      SlotsAlike (place :: places) (slot :: slots) (other :: others)

/-- Two documents say the same about fields, or both cannot have them. -/
def FieldsAlike (fields : List (String × Place)) (document other : Document) : Prop :=
  Option.Rel (SlotsAlike (fields.map Prod.snd)) (slots (fields.map Prod.fst) document)
    (slots (fields.map Prod.fst) other)

variable {place : Place} {document other : Document} {fields : List (String × Place)}

/-- What is said about some places is decoded like itself. -/
theorem SlotsAlike.refl : ∀ {places : List Place} {slots : List (Option Document)},
    slots.length = places.length → SlotsAlike places slots slots
  | [], [], _ => .nil
  | _ :: _, _ :: _, same => .cons rfl (.refl (Nat.succ.inj same))

section Records

variable {slot otherSlot : Option Document} {Result : Type} {decodeValue : Document → Option Result}

/-- A field that has to be there is decoded alike from alike slots. -/
theorem required_congr (alike : slot.map decodeValue = otherSlot.map decodeValue) :
    required decodeValue slot = required decodeValue otherSlot := by
  cases slot <;> cases otherSlot <;> simp_all [required]

/-- A field with a value of its own is decoded alike from alike slots, as the value stands for both
when both are empty. -/
theorem defaulted_congr {default : Result}
    (alike : slot.map decodeValue = otherSlot.map decodeValue) :
    defaulted default decodeValue slot = defaulted default decodeValue otherSlot := by
  cases slot <;> cases otherSlot <;> simp_all [defaulted]

/-- An argument is decoded from what is said about its fields: an optional name, and a value that
has to be there. -/
theorem decodeArgument_congr (alike : FieldsAlike Place.argument.members document other) :
    decodeArgument document = decodeArgument other := by
  have said : Option.Rel _ (slots ["name", "value"] document)
    (slots ["name", "value"] other) := alike
  unfold decodeArgument
  generalize slots _ document = one at said
  generalize slots _ other = two at said
  cases said with
  | none => rfl
  | some alike =>
    obtain _ | ⟨name, _ | ⟨value, _ | _⟩⟩ := alike
    simp only [Place.reading] at name value
    simp only [defaulted_congr name, required_congr value]

/-- An attribute is decoded from what is said about its fields: its name, and arguments that may be
missing. -/
theorem decodeAttribute_congr (alike : FieldsAlike Place.attr.members document other) :
    decodeAttribute document = decodeAttribute other := by
  have said : Option.Rel _ (slots ["name", "args"] document)
    (slots ["name", "args"] other) := alike
  unfold decodeAttribute
  generalize slots _ document = one at said
  generalize slots _ other = two at said
  cases said with
  | none => rfl
  | some alike =>
    obtain _ | ⟨name, _ | ⟨arguments, _ | _⟩⟩ := alike
    simp only [Place.reading] at name arguments
    simp only [required_congr name, defaulted_congr arguments]

/-- A parameter is decoded from what is said about its fields: name, type, and attributes that may
be missing. -/
theorem decodeParameter_congr (alike : FieldsAlike Place.parameter.members document other) :
    decodeParameter document = decodeParameter other := by
  have said : Option.Rel _ (slots ["name", "type", "attributes"] document)
    (slots ["name", "type", "attributes"] other) := alike
  unfold decodeParameter
  generalize slots _ document = one at said
  generalize slots _ other = two at said
  cases said with
  | none => rfl
  | some alike =>
    obtain _ | ⟨name, _ | ⟨typeText, _ | ⟨attributes, _ | _⟩⟩⟩ := alike
    simp only [Place.reading] at name typeText attributes
    simp only [required_congr name, required_congr typeText, defaulted_congr attributes]

/-- A method is decoded from what is said about its fields, of which attributes and parameters may
be missing. -/
theorem decodeMethod_congr (alike : FieldsAlike Place.method.members document other) :
    decodeMethod document = decodeMethod other := by
  have said : Option.Rel _ (slots ["name", "returnType", "attributes", "parameters"] document)
    (slots ["name", "returnType", "attributes", "parameters"] other) := alike
  unfold decodeMethod
  generalize slots _ document = one at said
  generalize slots _ other = two at said
  cases said with
  | none => rfl
  | some alike =>
    obtain _ | ⟨name, _ | ⟨returnType, _ | ⟨attributes, _ | ⟨parameters, _ | _⟩⟩⟩⟩ := alike
    simp only [Place.reading] at name returnType attributes parameters
    simp only [required_congr name, required_congr returnType, defaulted_congr attributes,
      defaulted_congr parameters]

/-- A class is decoded from what is said about its fields, of which only the name has to be there.
-/
theorem decodeClass_congr (alike : FieldsAlike Place.declaredClass.members document other) :
    decodeClass document = decodeClass other := by
  have said : Option.Rel _
    (slots ["namespace", "imports", "name", "attributes", "methods"] document)
    (slots ["namespace", "imports", "name", "attributes", "methods"] other) := alike
  unfold decodeClass
  generalize slots _ document = one at said
  generalize slots _ other = two at said
  cases said with
  | none => rfl
  | some alike =>
    obtain _ | ⟨scope, _ | ⟨imports, _ | ⟨name, _ | ⟨attributes, _ | ⟨methods, _ | _⟩⟩⟩⟩⟩ := alike
    simp only [Place.reading] at scope imports name attributes methods
    simp only [defaulted_congr scope, defaulted_congr imports, required_congr name,
      defaulted_congr attributes, defaulted_congr methods]

end Records

/-- A value that a mapping may have under one key only is decoded alike, when both mappings say the
same about the key. -/
theorem onlyField?_congr {name : String} {entries others : List (Document × Document)}
    (alike : FieldsAlike [(name, place)] (.mapping entries) (.mapping others)) :
    (onlyField? name (.mapping entries)).bind place.reading =
      (onlyField? name (.mapping others)).bind place.reading := by
  have said : Option.Rel _ (slotsOfEntries [name] entries) (slotsOfEntries [name] others) := alike
  simp only [onlyField?]
  generalize slotsOfEntries _ entries = one at said
  generalize slotsOfEntries _ others = two at said
  cases said with
  | none => rfl
  | some alike =>
    obtain _ | @⟨_, _, slot, other, _, _, value, _ | _⟩ := alike
    cases slot <;> cases other <;> simp_all

/-! ## What mappings say -/

/-- One more field that both documents say the same about, unless both repeat it. A repeated field
makes either document unreadable. -/
theorem SlotsAlike.bind {places : List Place} {first second : Option (Option Document)}
    {slots others : Option (List (Option Document))}
    (alike : first.map (Option.map place.reading) = second.map (Option.map place.reading))
    (rest : Option.Rel (SlotsAlike places) slots others) :
    Option.Rel (SlotsAlike (place :: places))
      (do let slot ← first; let slots ← slots; pure (slot :: slots))
      (do let slot ← second; let slots ← others; pure (slot :: slots)) := by
  cases first with
  | none =>
    obtain rfl : second = none := by simpa using alike.symm
    exact .none
  | some slot =>
    cases second with
    | none => cases alike
    | some other =>
      cases rest with
      | none => exact .none
      | some rest => exact .some (.cons (Option.some.inj alike) rest)

section Mappings

variable {entries others : List (Document × Document)}

/-- Fields are looked for one by one, so it is enough that each is found alike, and that the
mappings agree on whether all their keys can be those of fields. -/
theorem fieldsAlike_mapping
    (keyed : (entries.all fun entry => isFieldKey entry.1) =
      others.all fun entry => isFieldKey entry.1)
    (alike : ∀ name place, (name, place) ∈ fields → ∀ position,
      (onlyValue (entries.filter fun entry => namesField name position entry.1)).map
          (Option.map place.reading) =
        (onlyValue (others.filter fun entry => namesField name position entry.1)).map
          (Option.map place.reading)) :
    FieldsAlike fields (.mapping entries) (.mapping others) := by
  simp only [FieldsAlike, slots, slotsOfEntries, keyed]
  split
  · generalize 0 = position
    induction fields generalizing position with
    | nil => exact .some .nil
    | cons field fields inductionHypothesis =>
      obtain ⟨name, place⟩ := field
      have rest := inductionHypothesis (fun name place member => alike name place (.tail _ member))
        (position + 1)
      simp only [List.map_cons, List.zipIdx_cons, List.mapM_cons]
      exact SlotsAlike.bind (alike name place List.mem_cons_self position) rest
  · exact .none

/-- The order of the entries for a field makes no difference: there is at most one that counts, and
two are refused in any order. -/
theorem onlyValue_perm (perm : entries.Perm others) : onlyValue entries = onlyValue others := by
  match entries, perm with
  | [], perm => rw [perm.nil_eq]
  | [entry], perm => rw [List.perm_singleton.mp perm.symm]
  | _ :: _ :: _, perm =>
    match others, perm.length_eq with
    | _ :: _ :: _, _ => rfl

/-- The order of members does not matter. -/
theorem fieldsAlike_of_perm (perm : entries.Perm others) :
    FieldsAlike fields (.mapping entries) (.mapping others) := by
  refine fieldsAlike_mapping (perm.all_eq) fun name place _ position => ?_
  rw [onlyValue_perm (perm.filter _)]

/-- A member that is none of the fields does not matter. -/
theorem fieldsAlike_cons {key : String} {value : Document} (unused : key ∉ fields.map Prod.fst) :
    FieldsAlike fields (.mapping entries) (.mapping ((.text key, value) :: entries)) := by
  refine fieldsAlike_mapping rfl fun name place member position => ?_
  have other : namesField name position (.text key) = false := by
    have different : key ≠ name := fun same =>
      unused (List.mem_map.mpr ⟨_, member, same.symm⟩)
    simpa [namesField] using different
  rw [List.filter_cons_of_neg (by simp [other])]

/-- A value is the only one when nothing stands around it. -/
theorem onlyValue_append_cons (before after : List (Document × Document))
    (entry : Document × Document) :
    onlyValue (before ++ entry :: after) =
      if before = [] ∧ after = [] then some (some entry.2) else none := by
  cases before with
  | nil => cases after <;> rfl
  | cons _ before => cases before <;> rfl

/-- A value that is decoded as another does not matter, where it stands for a field. Where its key
is that of no field, it is not decoded at all. -/
theorem fieldsAlike_member {before after : List (Document × Document)} {key : String}
    {value other : Document}
    (alike : ∀ place, (key, place) ∈ fields → place.reading value = place.reading other) :
    FieldsAlike fields (.mapping (before ++ (.text key, value) :: after))
      (.mapping (before ++ (.text key, other) :: after)) := by
  refine fieldsAlike_mapping (by simp) fun name place member position => ?_
  simp only [List.filter_append, List.filter_cons]
  by_cases named : namesField name position (.text key)
  · obtain rfl : key = name := by simpa [namesField] using named
    rw [if_pos named, if_pos named, onlyValue_append_cons, onlyValue_append_cons]
    split
    · simp only [Option.map_some, alike place member]
    · rfl
  · rw [if_neg named, if_neg named]

end Mappings

/-! ## What lists say -/

/-- The items of a list stand for the fields in their order, so the item that is exchanged stands
for the field that has as many before it. -/
theorem slotsAlike_items {item other : Document} : ∀ {places : List Place} {before : List Document}
    (after : List Document), (before ++ item :: after).length ≤ places.length →
    (∀ place, places[before.length]? = some place → place.reading item = place.reading other) →
    SlotsAlike places
      ((before ++ item :: after).map some ++
        List.replicate (places.length - (before ++ item :: after).length) none)
      ((before ++ other :: after).map some ++
        List.replicate (places.length - (before ++ other :: after).length) none)
  | [], before, after, short, _ => by simp at short
  | place :: places, [], after, short, alike => by
    refine .cons (congrArg some (alike place rfl)) (.refl ?_)
    simp at short ⊢
    omega
  | place :: places, first :: before, after, short, alike => by
    have rest := @slotsAlike_items _ _ places before after (Nat.le_of_succ_le_succ short) alike
    simpa using SlotsAlike.cons rfl rest

/-- A list in which one item is exchanged says the same about the fields if the item is decoded
alike, where the item stands for the field at its position. An item behind the last field makes both
lists unreadable. -/
theorem fieldsAlike_item {item other : Document} {before after : List Document}
    (alike : ∀ field, fields[before.length]? = some field →
      field.2.reading item = field.2.reading other) :
    FieldsAlike fields (.list (before ++ item :: after)) (.list (before ++ other :: after)) := by
  have same : (before ++ other :: after).length = (before ++ item :: after).length := by simp
  simp only [FieldsAlike, slots, slotsOfItems, same]
  split
  · rename_i short
    refine .some ?_
    have placed (place : Place) (stands : (fields.map Prod.snd)[before.length]? = some place) :
        place.reading item = place.reading other := by
      obtain ⟨field, found, rfl⟩ := Option.map_eq_some_iff.mp (List.getElem?_map ▸ stands)
      exact alike field found
    simpa [same] using slotsAlike_items after (by simpa using short) placed
  · exact .none

/-! ## Rearrangement -/

/-- Members stand at a place: each key leads where the place says. -/
def IsAmong (fields : List (String × Place)) (place : Place) : Prop :=
  ∀ field ∈ fields, place.members.lookup field.1 = some field.2

instance : Decidable (IsAmong fields place) :=
  inferInstanceAs (Decidable (∀ field ∈ fields, place.members.lookup field.1 = some field.2))

/-- A mapping is decoded by what it says about the members of its place. Where several readings are
tried, each of them looks at some of the members. -/
theorem reading_mapping {entries others : List (Document × Document)}
    (alike : ∀ fields, IsAmong fields place →
      FieldsAlike fields (.mapping entries) (.mapping others)) :
    place.reading (.mapping entries) = place.reading (.mapping others) := by
  cases place with
  | file =>
    have clients : decodeClients (.mapping entries) = decodeClients (.mapping others) :=
      onlyField?_congr (alike [("clients", .list .declaredClass)] (by decide))
    have single : decodeClass (.mapping entries) = decodeClass (.mapping others) :=
      decodeClass_congr (alike _ (by decide))
    simp only [Place.reading, decode, clients, single]
  | declaredClass => exact decodeClass_congr (alike _ (by decide))
  | method => exact decodeMethod_congr (alike _ (by decide))
  | parameter => exact decodeParameter_congr (alike _ (by decide))
  | attr => exact decodeAttribute_congr (alike _ (by decide))
  | argument => exact decodeArgument_congr (alike _ (by decide))
  | argumentValue =>
    have symbol := onlyField?_congr (alike [("symbol", .text)] (by decide))
    exact congrArg (Option.map ArgumentValue.symbol) symbol
  | text => rfl
  | optionalText => rfl
  | list _ => rfl
  | unused => rfl

/-- A list is decoded item by item, or as the fields of a record in their order. For both it is
enough that the items are decoded alike. -/
theorem reading_list {item other : Document} {before after : List Document}
    (alike : (place.item before.length).reading item = (place.item before.length).reading other) :
    place.reading (.list (before ++ item :: after)) =
      place.reading (.list (before ++ other :: after)) := by
  have fieldwise {fields : List (String × Place)}
      (stands : ∀ field, fields[before.length]? = some field → place.item before.length = field.2) :
      FieldsAlike fields (.list (before ++ item :: after)) (.list (before ++ other :: after)) :=
    fieldsAlike_item fun field found => stands field found ▸ alike
  cases place with
  | file =>
    have single : decodeClass (.list (before ++ item :: after)) =
        decodeClass (.list (before ++ other :: after)) :=
      decodeClass_congr (fieldwise fun field found => by simp [Place.item, found])
    simp only [Place.reading, decode, decodeClients, onlyField?, single]
  | declaredClass =>
    exact decodeClass_congr (fieldwise fun field found => by simp [Place.item, found])
  | method => exact decodeMethod_congr (fieldwise fun field found => by simp [Place.item, found])
  | parameter =>
    exact decodeParameter_congr (fieldwise fun field found => by simp [Place.item, found])
  | attr => exact decodeAttribute_congr (fieldwise fun field found => by simp [Place.item, found])
  | argument =>
    exact decodeArgument_congr (fieldwise fun field found => by simp [Place.item, found])
  | list place =>
    change place.reading item = place.reading other at alike
    simp only [Place.reading, decodeList, List.mapM_append, List.mapM_cons, alike]
  | argumentValue => rfl
  | text => rfl
  | optionalText => rfl
  | unused => rfl

/-- A key of members that stand at a place is a key of this place. -/
theorem mem_of_isAmong {key : String} (among : IsAmong fields place)
    (member : key ∈ fields.map Prod.fst) : key ∈ place.members.map Prod.fst := by
  obtain ⟨field, isField, rfl⟩ := List.mem_map.mp member
  obtain ⟨before, after, split, _⟩ := List.lookup_eq_some_iff.mp (among field isField)
  simp [split]

/-- One change of the layout changes nothing that is decoded. -/
theorem Rearrangement.reading_eq (change : Rearrangement place document other) :
    place.reading document = place.reading other := by
  induction change with
  | reorder perm => exact reading_mapping fun fields _ => fieldsAlike_of_perm perm
  | add unused =>
    exact reading_mapping fun fields among =>
      fieldsAlike_cons fun member => unused (mem_of_isAmong among member)
  | @inMember place _ _ key value other _ inductionHypothesis =>
    refine reading_mapping fun fields among => fieldsAlike_member fun inside member => ?_
    have leads : place.member key = inside := by
      rw [Place.member, among (key, inside) member]
      rfl
    exact leads ▸ inductionHypothesis
  | inItem _ inductionHypothesis => exact reading_list inductionHypothesis

/-- So does any number of changes. -/
theorem SameButLayout.decode_eq (same : SameButLayout document other) :
    decode document = decode other := by
  induction same with
  | rel _ _ change => exact change.reading_eq
  | refl => rfl
  | symm _ _ _ inductionHypothesis => exact inductionHypothesis.symm
  | trans _ _ _ _ _ first second => exact first.trans second

/-! ## Lists of classes -/

/-- A list decodes where each of its items does. -/
theorem decodeList_of_forall₂ {Item : Type} {decodeItem : Document → Option Item}
    {documents : List Document} {items : List Item}
    (each : List.Forall₂ (fun document item => decodeItem document = some item) documents items) :
    decodeList decodeItem (.list documents) = some items := by
  induction each with
  | nil => rfl
  | cons decoded _ inductionHypothesis =>
    change List.mapM decodeItem _ = some _ at inductionHypothesis
    simp [decodeList, List.mapM_cons, decoded, inductionHypothesis]

/-- A list of classes is taken whatever stands beside it. -/
theorem decode_of_clients {members : List (String × Document)} {value : Document}
    {classes : List ClassDeclaration} (distinct : (members.map Prod.fst).Nodup)
    (member : ("clients", value) ∈ members)
    (decoded : decodeList decodeClass value = some classes) :
    decode (.record members) = some classes := by
  have found : decodeClients (.record members) = some classes := by
    rw [decodeClients, onlyField?_record distinct,
      (Entries.lookup_eq_some_iff_mem distinct).mpr member]
    exact decoded
  rw [decode, found]

/-- The layout of a document is irrelevant. Whatever the order of the members in any of its
mappings, and whatever members are added whose keys mean nothing where they stand, it decodes to the
same classes or to none as before, and texts that denote it are read alike. A list of classes under
`clients` is taken whatever the other members are. -/
theorem layout_is_irrelevant :
    (∀ document other, SameButLayout document other →
      decode document = decode other ∧
      ∀ text otherText, Json.read text = .ok document → Json.read otherText = .ok other →
        readJson text = readJson otherText) ∧
    ∀ members documents classes, (members.map Prod.fst).Nodup →
      ("clients", Document.list documents) ∈ members →
      List.Forall₂ (fun document declared => decodeClass document = some declared)
        documents classes →
      decode (.record members) = some classes := by
  refine ⟨fun document other same => ⟨same.decode_eq, ?_⟩, ?_⟩
  · intro text otherText denoted otherDenoted
    rw [readJson_of_read denoted, readJson_of_read otherDenoted, same.decode_eq]
  · intro members documents classes distinct member each
    exact decode_of_clients distinct member (decodeList_of_forall₂ each)

/-- A class with a path of some members. -/
def classWithPath (path : List (String × Document)) : List (String × Document) :=
  [("name", .text "I"), ("attributes", .list [.record [("name", .text "Get"),
    ("args", .list [.record [("value", .record path)]])]])]

/-- A class with a path that is a symbol. -/
def plainClass : List (String × Document) :=
  classWithPath [("symbol", .text "P")]

/-- The same class in the opposite order, with a note at its end and one beside the symbol. -/
def notedClass : List (String × Document) :=
  (("note", .int 1) :: classWithPath [("note", .null), ("symbol", .text "P")]).reverse

/-- The class is read alike in both layouts, and a list with it is taken beside a name that is no
text. -/
theorem notedClass_is_read :
    readJson (Json.compact (.record notedClass)) = readJson (Json.compact (.record plainClass)) ∧
    decode (.record [("name", .null), ("clients", .list [.record plainClass])]) =
      some [⟨"", [], "I", [⟨"Get", [⟨none, .symbol "P"⟩]⟩], []⟩] := by
  obtain ⟨alike, taken⟩ := layout_is_irrelevant
  have beside : Rearrangement .file (.record plainClass)
      (.record (classWithPath [("note", .null), ("symbol", .text "P")])) :=
    @Rearrangement.inMember .file [(.text "name", .text "I")] [] "attributes" _ _
      (@Rearrangement.inItem _ [] [] _ _
        (@Rearrangement.inMember _ [(.text "name", .text "Get")] [] "args" _ _
          (@Rearrangement.inItem _ [] [] _ _
            (@Rearrangement.inMember _ [] [] "value" _ _ (.add (by decide))))))
  have inFront : Rearrangement .file
      (.record (classWithPath [("note", .null), ("symbol", .text "P")]))
      (.record notedClass.reverse) := .add (by decide)
  have reversed : Rearrangement .file (.record notedClass.reverse) (.record notedClass) :=
    .reorder (notedClass.reverse_perm.map _)
  have same : SameButLayout (.record plainClass) (.record notedClass) :=
    ((Relation.EqvGen.rel _ _ beside).trans _ _ _ (.rel _ _ inFront)).trans _ _ _
      (.rel _ _ reversed)
  have denoted : Json.read (Json.compact (.record plainClass)) = .ok (.record plainClass) := by
    decide +kernel
  have otherDenoted : Json.read (Json.compact (.record notedClass)) = .ok (.record notedClass) := by
    decide +kernel
  refine ⟨((alike _ _ same).2 _ _ denoted otherDenoted).symm, ?_⟩
  have decoded : decodeClass (.record plainClass) =
      some ⟨"", [], "I", [⟨"Get", [⟨none, .symbol "P"⟩]⟩], []⟩ := by decide
  exact taken _ _ _ (by decide) (.tail _ (.head _)) (.cons decoded .nil)

end TypedClients.Declaration
