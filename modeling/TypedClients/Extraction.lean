import TypedClients.Client
import TypedClients.Declaration
import TypedClients.Defaults
import TypedClients.Diagnostic
import TypedClients.PathTemplate

/-!
# From a declaration to a client

Extraction gives every attribute its meaning. A method is generated when an attribute names a
verb, that attribute begins with a literal path, and the return type has a shape; any other
method is passed through, with the reason. Every parameter gets its part in the request by a
fixed precedence, and every option is decided between the method, the class and the project.

Three things come out: the client, the diagnostics, which are errors, and the warnings, which
tell where a declaration probably does not mean what it says. The client is computed on its own;
diagnostics and warnings are read off the declaration and the client. No list of findings is carried
along and added to: a method has a diagnostic exactly when its content was rejected, and the
diagnostics of a client are those of its methods in order, which is the order in which they would
have been added.
-/

namespace TypedClients.Extraction

open Text

/-- A place where a declaration probably does not mean what it says. -/
inductive Warning where
  /-- A serialization option that names nothing; the scope around it decides. -/
  | serializationNotSymbol (owner : String)
  /-- A serialization option with an unknown name; the scope around it decides. -/
  | serializationUnknown (owner symbol : String)
  /-- A placeholder without a parameter stays in the path as it is. -/
  | placeholderUnmatched (className methodName placeholder : String)
  /-- A return type without a shape. -/
  | returnTypeUnresolved (methodName : String) (fault : ReturnShape.Fault)
  /-- A diagnostic, which is a warning too. -/
  | diagnosed (diagnostic : Diagnostic)
deriving Repr

namespace Warning

/-- The wording of a warning, without its particulars. -/
def message : Warning → String
  | .serializationNotSymbol _ => "Serialization option is not a symbol; inheriting."
  | .serializationUnknown _ _ => "Unknown serialization mode; inheriting."
  | .placeholderUnmatched _ _ _ =>
    "Route placeholder has no matching parameter; it stays literal."
  | .returnTypeUnresolved _ _ => "Unresolvable return type."
  | .diagnosed diagnostic => diagnostic.message

/-- The particulars of a warning, by name. -/
def fields : Warning → List (String × String)
  | .serializationNotSymbol owner => [("owner", owner)]
  | .serializationUnknown owner symbol => [("owner", owner), ("symbol", symbol)]
  | .placeholderUnmatched className methodName placeholder =>
    [("class", className), ("method", methodName), ("placeholder", placeholder)]
  | .returnTypeUnresolved methodName fault =>
    [("method", methodName), ("error", fault.message)]
  | .diagnosed _ => []

end Warning

/-! ## Options -/

/-- The mode that a serialization option chooses. Anything that names no mode leaves the choice
to the scope around it. -/
def serializationMode (option : Option ArgumentValue) : SerializationMode :=
  ((option.bind ArgumentValue.symbolic?).bind SerializationMode.ofSymbol?).getD .inherit

/-- What is odd about a serialization option. -/
def serializationWarnings (owner : String) : Option ArgumentValue → List Warning
  | none => []
  | some value =>
    match value.symbolic? with
    | none => [.serializationNotSymbol owner]
    | some symbol =>
      match SerializationMode.ofSymbol? symbol with
      | none => [.serializationUnknown owner symbol]
      | some _ => []

/-- The options of a class, with the defaults of the project beneath them. -/
structure ClassOptions where
  serializer : Serializer
  modernRuntime : Bool
  slowCallThreshold : Nat
deriving Repr, DecidableEq

/-- A named argument of the attribute that marks a client class. -/
def classOption? (declared : ClassDeclaration) (key : String) : Option ArgumentValue :=
  (findAttribute? declared.attributes "ApiClientGenerator").bind fun attr => attr.named? key

/-- The options of a class. -/
def classOptions (declared : ClassDeclaration) (defaults : Defaults) : ClassOptions where
  serializer := (serializationMode (classOption? declared "Serialization")).resolve
    defaults.serializer
  modernRuntime := ((classOption? declared "NetCore").bind ArgumentValue.bool?).getD
    defaults.modernRuntime
  slowCallThreshold :=
    (((classOption? declared "ConnectionTooLongWarn").bind ArgumentValue.int?).map
      clampThreshold).getD defaults.slowCallThreshold

/-- The first positional argument of the first attribute with a name. -/
def attributeValue? (attributes : List Attribute) (name : String) : Option ArgumentValue :=
  (findAttribute? attributes name).bind Attribute.positional?

/-- Whether failures of a method are thrown again: the attribute alone says so. -/
def throwsOnFailure (attributes : List Attribute) : Bool :=
  match findAttribute? attributes "ThrowsExceptions" with
  | none => false
  | some attr => (attr.positional?.bind ArgumentValue.bool?).getD true

/-- The slow-call threshold of a method. A method without a positive one has that of its class. -/
def methodThreshold (attributes : List Attribute) (classThreshold : Nat) : Nat :=
  let own := (((attributeValue? attributes "ConnectionTooLongWarn").bind
    ArgumentValue.int?).map clampThreshold).getD 0
  if own > 0 then own else classThreshold

/-! ## Endpoints -/

/-- Whether an attribute selects a verb: its base name begins with the name of the verb. -/
def selectsVerb (verb : HttpVerb) (attr : Attribute) : Bool :=
  verb.attributeStart.toList.isPrefixOf (folded (attributeBaseName attr.name)).toList

/-- The verb of a method and the attribute that selects it. Each verb in turn is tried on every
attribute. -/
def findVerb? (attributes : List Attribute) : Option (HttpVerb × Attribute) :=
  HttpVerb.all.findSome? fun verb => (attributes.find? (selectsVerb verb)).map fun attr =>
    (verb, attr)

/-- Whether a method is generated, and as what. -/
def resolveRole (method : MethodDeclaration) : Role :=
  match findVerb? method.attributes with
  | none => .error .noVerbAttribute
  | some (verb, attr) =>
    match attr.positional?.bind ArgumentValue.literal? with
    | none => .error .missingPathLiteral
    | some pathTemplate =>
      match ReturnShape.resolve method.returnType with
      | .error _ => .error .unresolvedReturnType
      | .ok returnShape => .ok { verb, pathTemplate, returnShape }

/-- The placeholders of a method; a method that is passed through has none. -/
def rolePlaceholders : Role → List String
  | .ok endpoint => PathTemplate.placeholders endpoint.pathTemplate
  | .error _ => []

/-! ## Parameters -/

/-- An identifier without the `@` before it. -/
def plainIdentifier (name : String) : String :=
  String.ofList (name.toList.dropWhile (· == '@'))

/-- The text of a literal that an attribute of a parameter gives. -/
def literalOption? (attributes : List Attribute) (name : String) : Option String :=
  (attributeValue? attributes name).bind ArgumentValue.literal?

/-- Whether a type is that of a cancellation token. -/
def isCancellationToken (typeText : String) : Bool :=
  "CancellationToken".toList.isSuffixOf typeText.toList

/-- Whether a content attribute asks for a form: its first truth value, under any name, says so. -/
def asksForForm (body : Attribute) : Bool :=
  (body.arguments.findSome? fun argument => argument.value.bool?).getD false

/-- The part of a parameter in the request. A placeholder of its name comes first, then `Body`,
then `Header`, then the type of a cancellation token; any other parameter is for the query
string. -/
def bindingOf (name typeText : String) (attributes : List Attribute)
    (placeholders : List String) : Binding :=
  if placeholders.contains name then .route
  else match findAttribute? attributes "Body" with
    | some body => if asksForForm body then .form else .body
    | none =>
      match findAttribute? attributes "Header" with
      | some header =>
        .header ((header.positional?.bind ArgumentValue.literal?).getD (name ++ ":"))
      | none => if isCancellationToken typeText then .none else .query

/-- A parameter, given the placeholders of the path. -/
def classify (parameter : ParameterDeclaration) (placeholders : List String) : Parameter :=
  let name := plainIdentifier parameter.name
  let typeText := trimmed parameter.typeText
  { name, typeText
    binding := bindingOf name typeText parameter.attributes placeholders
    queryAlias := literalOption? parameter.attributes "AliasAs"
    formatSpecifier := literalOption? parameter.attributes "Fmt" }

/-! ## Methods and classes -/

/-- Whether the content of a method is rejected: at most one parameter may carry it. -/
def rejectsContent (role : Role) (parameters : List Parameter) : Bool :=
  role.isOk && (parameters.filter fun parameter => parameter.binding.carriesContent).length > 1

/-- A method, under the options of its class. -/
def extractMethod (options : ClassOptions) (declared : MethodDeclaration) : Method :=
  let role := resolveRole declared
  let parameters := declared.parameters.map fun parameter =>
    classify parameter (rolePlaceholders role)
  { name := declared.name
    parameters, role
    throwsOnFailure := throwsOnFailure declared.attributes
    serializer := (serializationMode (attributeValue? declared.attributes "Serialization")).resolve
      options.serializer
    slowCallThreshold := methodThreshold declared.attributes options.slowCallThreshold
    contentSuppressed := rejectsContent role parameters }

/-- The client of a class. -/
def extractClient (declared : ClassDeclaration) (defaults : Defaults) : Client :=
  let options := classOptions declared defaults
  { scope := declared.scope
    className := declared.name
    imports := declared.imports
    methods := declared.methods.map (extractMethod options)
    serializer := options.serializer
    slowCallThreshold := options.slowCallThreshold
    targetsModernRuntime := options.modernRuntime }

/-! ## Findings -/

/-- The diagnostic of a method whose content was rejected. -/
def methodDiagnostic? (className : String) (method : Method) : Option Diagnostic :=
  if method.contentSuppressed then
    some { className
           methodName := method.name
           kind := .multipleContentParameters (method.contentParameters.map Parameter.name) }
  else none

/-- The diagnostics of a client, in the order of its methods. -/
def diagnostics (client : Client) : List Diagnostic :=
  client.methods.filterMap (methodDiagnostic? client.className)

/-- The fault of a return type, where nothing else keeps the method from being generated. -/
def returnTypeWarnings (declared : MethodDeclaration) : List Warning :=
  match resolveRole declared, ReturnShape.resolve declared.returnType with
  | .error .unresolvedReturnType, .error fault => [.returnTypeUnresolved declared.name fault]
  | _, _ => []

/-- The placeholders of a method that no parameter is named for, one warning an occurrence. -/
def placeholderWarnings (className : String) (method : Method) : List Warning :=
  ((rolePlaceholders method.role).filter fun placeholder =>
    !(method.parameters.any fun parameter => parameter.name == placeholder)).map
      (.placeholderUnmatched className method.name)

/-- The warnings of a method, in the order in which its parts are looked at. -/
def methodWarnings (className : String) (options : ClassOptions) (declared : MethodDeclaration) :
    List Warning :=
  let method := extractMethod options declared
  returnTypeWarnings declared ++ placeholderWarnings className method
    ++ serializationWarnings declared.name (attributeValue? declared.attributes "Serialization")
    ++ ((methodDiagnostic? className method).map .diagnosed).toList

/-- The warnings of a class: its own, then those of its methods in order. -/
def warnings (declared : ClassDeclaration) (defaults : Defaults) : List Warning :=
  serializationWarnings declared.name (classOption? declared "Serialization")
    ++ declared.methods.flatMap (methodWarnings declared.name (classOptions declared defaults))

end TypedClients.Extraction
