import TypedClients.Generation.MethodBody

/-!
# The file of a client

A client becomes an interface that lists its generated methods, and a partial class that
implements them and declares the hooks and stubs that the consumer fills in. Methods that are
passed through appear in neither.

The stubs of a class are collected while its methods are generated, one method after the other: a
method is given the stubs that are there, and what it adds is there for the next one. So the list of
stubs only grows, and a method may call a stub that an earlier one has declared.
-/

namespace TypedClients.Generation

open CSharp

/-- The methods of a client and the stubs that they call, in order, after those declared
before. -/
def methodsAndStubs (client : Client) (stubs : List Prototype) :
    List Method → List MethodDef × List Prototype
  | [] => ([], stubs)
  | method :: others =>
    match method.endpoint? with
    | none => methodsAndStubs client stubs others
    | some endpoint =>
      let names := stubNames stubs method endpoint.returnShape
      let rest := methodsAndStubs client (declareStubs stubs method endpoint.returnShape) others
      (methodDef client method endpoint names :: rest.1, rest.2)

/-- The hooks of a client. That for slow calls is declared only where one may be reported. -/
def hooks (client : Client) : List Prototype :=
  partialMethod "void" errorHook
      [⟨"string", "methodName"⟩, ⟨"string", "path"⟩, ⟨"System.Exception", "e"⟩]
    :: if client.reportsSlowCalls then
        [partialMethod "void" slowCallHook
          [⟨"string", "methodName"⟩, ⟨"string", "path"⟩, ⟨"long", "connectionDuration"⟩]]
      else []

/-- The name of the interface of a client. -/
def interfaceName (client : Client) : String :=
  "I" ++ client.className

/-- The file of a client. -/
def clientUnit (client : Client) : CompilationUnit :=
  let (methods, stubs) := methodsAndStubs client [] client.methods
  { usings := client.imports
    scope := client.scope
    interface :=
      { name := interfaceName client
        members := methods.map fun method => ⟨"", method.signature⟩ }
    body :=
      { name := client.className
        bases := [interfaceName client]
        fields := ["private readonly System.Net.Http.HttpClient " ++ transportField]
        methods
        partialMethods := hooks client ++ stubs } }

end TypedClients.Generation
