import TypedClients.Declaration
import TypedClients.Document

/-!
# Declarations in documents

A record is written as a mapping from field names to values, or as a list of its values in
declaration order. In a mapping, keys that name no field are passed over, a field given twice is
refused, and an unsigned integer names the field at that position; in a list, missing fields must
be at the end. A document holds either a list of classes under `clients` or a single class; the
first reading is tried before the second.

Decoding says only whether a document fits, not where it fails to.
-/

namespace TypedClients.Declaration

/-- A text. -/
def decodeText : Document → Option String
  | .text value => some value
  | _ => none

/-- A list, each item decoded alike. -/
def decodeList {α : Type} (decodeItem : Document → Option α) : Document → Option (List α)
  | .list items => items.mapM decodeItem
  | _ => none

/-- Null for nothing, or a value. -/
def decodeOptional {α : Type} (decodeValue : Document → Option α) : Document → Option (Option α)
  | .null => some none
  | document => (decodeValue document).map some

/-- Whether a key may stand in the mapping of a record: texts and unsigned integers may. -/
def isFieldKey : Document → Bool
  | .text _ => true
  | .int value => 0 ≤ value
  | _ => false

/-- Whether a key names the field with this name at this position. -/
def namesField (name : String) (position : Nat) : Document → Bool
  | .text key => key == name
  | .int key => key == (position : Int)
  | _ => false

/-- What stands for a field: nothing, or the one value given. Two values are refused. -/
def onlyValue : List (Document × Document) → Option (Option Document)
  | [] => some none
  | [entry] => some (some entry.2)
  | _ => none

/-- What a mapping says about each of the fields. -/
def slotsOfEntries (fields : List String) (entries : List (Document × Document)) :
    Option (List (Option Document)) :=
  if entries.all fun entry => isFieldKey entry.1 then
    fields.zipIdx.mapM fun (name, position) =>
      onlyValue (entries.filter fun entry => namesField name position entry.1)
  else none

/-- What a list says about each of the fields. -/
def slotsOfItems (fields : List String) (items : List Document) :
    Option (List (Option Document)) :=
  if items.length ≤ fields.length then
    some (items.map some ++ List.replicate (fields.length - items.length) none)
  else none

/-- What a document says about each field of a record. -/
def slots (fields : List String) : Document → Option (List (Option Document))
  | .mapping entries => slotsOfEntries fields entries
  | .list items => slotsOfItems fields items
  | _ => none

/-- A field that has to be there. -/
def required {α : Type} (decodeValue : Document → Option α) : Option Document → Option α
  | some document => decodeValue document
  | none => none

/-- A field with a value of its own when it is not there. -/
def defaulted {α : Type} (default : α) (decodeValue : Document → Option α) :
    Option Document → Option α
  | some document => decodeValue document
  | none => some default

/-- A mapping that says something about one field; a list will not do. -/
def onlyField? (name : String) : Document → Option Document
  | .mapping entries =>
    match slotsOfEntries [name] entries with
    | some [slot] => slot
    | _ => none
  | _ => none

/-- The value of an argument. -/
def decodeArgumentValue : Document → Option ArgumentValue
  | .bool value => some (.bool value)
  | .int value => if Document.fitsSigned value then some (.int (Int64.ofInt value)) else none
  | .text value => some (.literal value)
  | document => ((onlyField? "symbol" document).bind decodeText).map .symbol

/-- An argument of an attribute. -/
def decodeArgument (document : Document) : Option Argument :=
  match slots ["name", "value"] document with
  | some [name, value] => do
    let name ← defaulted none (decodeOptional decodeText) name
    let value ← required decodeArgumentValue value
    return { name, value }
  | _ => none

/-- An attribute. -/
def decodeAttribute (document : Document) : Option Attribute :=
  match slots ["name", "args"] document with
  | some [name, arguments] => do
    let name ← required decodeText name
    let arguments ← defaulted [] (decodeList decodeArgument) arguments
    return { name, arguments }
  | _ => none

/-- A parameter. -/
def decodeParameter (document : Document) : Option ParameterDeclaration :=
  match slots ["name", "type", "attributes"] document with
  | some [name, typeText, attributes] => do
    let name ← required decodeText name
    let typeText ← required decodeText typeText
    let attributes ← defaulted [] (decodeList decodeAttribute) attributes
    return { name, typeText, attributes }
  | _ => none

/-- A method. -/
def decodeMethod (document : Document) : Option MethodDeclaration :=
  match slots ["name", "returnType", "attributes", "parameters"] document with
  | some [name, returnType, attributes, parameters] => do
    let name ← required decodeText name
    let returnType ← required decodeText returnType
    let attributes ← defaulted [] (decodeList decodeAttribute) attributes
    let parameters ← defaulted [] (decodeList decodeParameter) parameters
    return { name, returnType, attributes, parameters }
  | _ => none

/-- A class. -/
def decodeClass (document : Document) : Option ClassDeclaration :=
  match slots ["namespace", "imports", "name", "attributes", "methods"] document with
  | some [scope, imports, name, attributes, methods] => do
    let scope ← defaulted "" decodeText scope
    let imports ← defaulted [] (decodeList decodeText) imports
    let name ← required decodeText name
    let attributes ← defaulted [] (decodeList decodeAttribute) attributes
    let methods ← defaulted [] (decodeList decodeMethod) methods
    return { scope, imports, name, attributes, methods }
  | _ => none

/-- The classes under `clients`. -/
def decodeClients (document : Document) : Option (List ClassDeclaration) :=
  (onlyField? "clients" document).bind (decodeList decodeClass)

/-- The classes of a document. -/
def decode (document : Document) : Option (List ClassDeclaration) :=
  match decodeClients document with
  | some classes => some classes
  | none => (decodeClass document).map fun only => [only]

end TypedClients.Declaration
