import TypedClients.Text.Blank
import TypedClients.Text.Fold
import TypedClients.Text.Pieces

/-!
# Serializers and the choice between them

Request bodies and responses go through one of three serializers. A scope (a method, a class, the
project) either names one or leaves the choice to the scope around it; what is generated from is
always a serializer, never an open choice.

A symbol names a serializer by its last dotted segment, in any case. A symbol that names none, or
that names the choice of the scope around, leaves the choice open.
-/

namespace TypedClients

/-- A way to serialize values. -/
inductive Serializer where
  | newtonsoft
  | systemTextJson
  /-- Partial methods that the consumer implements. -/
  | custom
deriving Repr, DecidableEq

/-- The choice that a scope makes. -/
inductive SerializationMode where
  /-- The choice of the scope around it. -/
  | inherit
  | use (serializer : Serializer)
deriving Repr, DecidableEq

/-- The name of a serializer in documents. -/
def Serializer.name : Serializer → String
  | .newtonsoft => "Newtonsoft"
  | .systemTextJson => "SystemTextJson"
  | .custom => "Custom"

namespace SerializationMode

/-- The name of a mode in documents. -/
def name : SerializationMode → String
  | .inherit => "Inherit"
  | .use serializer => serializer.name

/-- The mode that a symbol names: what stands behind its last dot, without blanks and up to the
case of letters. -/
def ofSymbol? (symbol : String) : Option SerializationMode :=
  let last := String.ofList (Text.trimBlanks (Text.afterLast '.' symbol.toList))
  if Text.sameFolded last "inherit" then some .inherit
  else if Text.sameFolded last "newtonsoft" then some (.use .newtonsoft)
  else if Text.sameFolded last "systemtextjson" then some (.use .systemTextJson)
  else if Text.sameFolded last "custom" then some (.use .custom)
  else none

/-- The serializer of a scope, given that of the scope around it. -/
def resolve (outer : Serializer) : SerializationMode → Serializer
  | .inherit => outer
  | .use serializer => serializer

end SerializationMode

end TypedClients
