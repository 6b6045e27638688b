import TypedClients.CSharp.Syntax
import TypedClients.Generation.ResultKind
import TypedClients.Client

/-!
# Stubs of a custom serializer

A method with a custom serializer calls partial methods that the consumer implements: one that
serializes its content and one that deserializes its result. Overloads of one method ask for
stubs under the same name. A stub with the same parameters and the same result is shared; one
that would differ in its result alone cannot be declared under that name, and takes the first
name with an ordinal behind it, from 2 on, under which it can.
-/

namespace TypedClients.Generation

open CSharp

/-- A partial method of the generated class. -/
def partialMethod (returnType name : String) (params : List Param) : Prototype where
  modifiers := "private partial"
  signature := { returnType, name, params }

/-- A stub that a method asks for. -/
structure StubRequest where
  returnType : String
  /-- The name without an ordinal. -/
  baseName : String
  params : List Param
deriving Repr, DecidableEq

/-- Whether a declared stub has a name and the parameter types that are asked for. -/
def StubRequest.collides (request : StubRequest) (name : String) (stub : Prototype) : Bool :=
  stub.signature.name == name &&
    stub.signature.params.map Param.type == request.params.map Param.type

/-- The declared stub that stands in the way of a name, or can be shared under it. -/
def StubRequest.found? (request : StubRequest) (stubs : List Prototype) (name : String) :
    Option Prototype :=
  stubs.find? (request.collides name)

/-- Whether a request can be met under a name: by a new stub, or by one with the same result. -/
def StubRequest.fits (request : StubRequest) (stubs : List Prototype) (name : String) : Bool :=
  (request.found? stubs name).all fun stub => stub.signature.returnType == request.returnType

/-- The names to try, one more than there are stubs, so that one of them fits. -/
def StubRequest.candidates (request : StubRequest) (stubs : List Prototype) : List String :=
  request.baseName
    :: (List.range stubs.length).map fun ordinal => request.baseName ++ toString (ordinal + 2)

/-- The name under which a request is met. -/
def StubRequest.chosenName (request : StubRequest) (stubs : List Prototype) : String :=
  ((request.candidates stubs).find? (request.fits stubs)).getD request.baseName

/-- The stubs with one more request met. -/
def StubRequest.declareIn (request : StubRequest) (stubs : List Prototype) : List Prototype :=
  let name := request.chosenName stubs
  match request.found? stubs name with
  | some _ => stubs
  | none => stubs ++ [partialMethod request.returnType name request.params]

/-- The stub that serializes the content of a method. -/
def serializeRequest? (method : Method) : Option StubRequest :=
  match method.serializer, method.contentParameter? with
  | .custom, some content =>
    if content.binding = .body then
      some { returnType := "string"
             baseName := "Serialize" ++ method.name
             params := [⟨content.typeText, "value"⟩] }
    else none
  | _, _ => none

/-- The stub that deserializes the result of a method. -/
def deserializeRequest? (method : Method) (shape : ReturnShape) : Option StubRequest :=
  match method.serializer, shape.value with
  | .custom, some value =>
    if (ResultKind.ofType value).mayGiveNothing then
      some { returnType := value.render
             baseName := "Deserialize" ++ method.name
             params := [⟨"string", "content"⟩] }
    else none
  | _, _ => none

/-- The names of the stubs that a method calls. -/
structure StubNames where
  serialize : Option String
  deserialize : Option String
deriving Repr, DecidableEq

/-- The stubs after a request that may not be there. -/
def declareOptional (stubs : List Prototype) : Option StubRequest → List Prototype
  | none => stubs
  | some request => request.declareIn stubs

/-- The stubs after those of one more method: the one for its content first. -/
def declareStubs (stubs : List Prototype) (method : Method) (shape : ReturnShape) :
    List Prototype :=
  declareOptional (declareOptional stubs (serializeRequest? method))
    (deserializeRequest? method shape)

/-- The names of the stubs of a method, given the stubs declared before it. -/
def stubNames (stubs : List Prototype) (method : Method) (shape : ReturnShape) : StubNames where
  serialize := (serializeRequest? method).map fun request => request.chosenName stubs
  deserialize := (deserializeRequest? method shape).map fun request =>
    request.chosenName (declareOptional stubs (serializeRequest? method))

end TypedClients.Generation
