import TypedClients.Generation.Stub
import TypedClients.Generation.Url

/-!
# The content of a request

The content is one parameter: serialized to JSON by the serializer of the method, or turned into
a form, with a field for each readable public property that has a value.

A method with several parameters that carry content has none made, and a diagnostic says so. Which
parameters those are was decided by their bindings when the client was extracted.
-/

namespace TypedClients.Generation

open CSharp

/-- The property of the request that holds its content. -/
def requestContent : Expr :=
  .member (.name "request") "Content"

/-- The call that serializes a value. -/
def serializeCall (serializer : Serializer) (names : StubNames) (value : Expr) : Expr :=
  match serializer with
  | .newtonsoft => .callMember (.name "Newtonsoft.Json.JsonConvert") "SerializeObject" [value]
  | .systemTextJson => .callMember (.name "System.Text.Json.JsonSerializer") "Serialize" [value]
  | .custom => .callName (names.serialize.getD "") [value]

/-- The statements that send a parameter as JSON. -/
def jsonContent (serializer : Serializer) (names : StubNames) (parameter : Parameter) :
    List Stmt :=
  [.declare "json" (serializeCall serializer names (parameterExpr parameter)),
   .assign requestContent (.create "System.Net.Http.StringContent"
     [.name "json", .name "System.Text.Encoding.UTF8", .text "application/json"])]

/-- The type of a field of a form. -/
def formFieldType : String := "System.Collections.Generic.KeyValuePair<string, string>"

/-- The public properties of a value. -/
def publicProperties (value : Expr) : Expr :=
  .callMember (.callMember value "GetType" []) "GetProperties"
    [.binary (.name "System.Reflection.BindingFlags.Public") .bitOr
      (.name "System.Reflection.BindingFlags.Instance")]

/-- The statement that adds a property to the form. -/
def addFormField : Stmt :=
  .evaluate (.callMember (.name "form") "Add"
    [.create formFieldType
      [.member (.name "property") "Name",
       .callMember (.name "System.Convert") "ToString"
         [.name "propertyValue", .name "System.Globalization.CultureInfo.InvariantCulture"]]])

/-- A property can be read without an index. -/
def isPlainProperty : Expr :=
  .binary (.member (.name "property") "CanRead") .and
    (.binary (.member (.callMember (.name "property") "GetIndexParameters" []) "Length") .equal
      (.literal (.int 0)))

/-- The statements that send a parameter as a form. -/
def formContent (parameter : Parameter) : List Stmt :=
  let value := parameterExpr parameter
  [.declare "form" (.create ("System.Collections.Generic.List<" ++ formFieldType ++ ">") []),
   .whenTrue (.isNotNull value)
     [.forEach "property" (publicProperties value)
       [.whenTrue isPlainProperty
         [.declare "propertyValue" (.callMember (.name "property") "GetValue" [value]),
          .whenTrue (.isNotNull (.name "propertyValue")) [addFormField]]]],
   .assign requestContent (.create "System.Net.Http.FormUrlEncodedContent" [.name "form"])]

/-- The statements that set the content of a request, if it has any. -/
def contentStmts (method : Method) (names : StubNames) : List Stmt :=
  match method.contentParameter? with
  | none => []
  | some parameter =>
    if parameter.binding = .form then formContent parameter
    else jsonContent method.serializer names parameter

end TypedClients.Generation
