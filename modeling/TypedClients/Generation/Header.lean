import TypedClients.Generation.Url

/-!
# Headers of a request

A header template is a name and, behind its first colon, a value for when the parameter gives
none. The block that sends the header joins the name and the value of the parameter by a colon,
takes them apart at the first colon, and sends the fallback in place of an empty value.

The statements of a header stand in a block, so that the locals `header` and `headerText` can be
declared for each of them.
-/

namespace TypedClients.Generation

open CSharp Text

/-- The name of a header: what stands before the first colon of its template. -/
def headerName (template : String) : String :=
  String.ofList (trimBlanks (beforeFirst ':' template.toList))

/-- The value of a header whose parameter is empty: what stands behind the first colon. -/
def headerFallback (template : String) : String :=
  String.ofList (trimBlanks (afterFirst ':' template.toList))

/-- The name and the value of a header, with a colon between them. -/
def headerPair (parameter : Parameter) (template : String) : Expr :=
  .interpolated
    [.text (headerName template ++ ":"),
     .hole (escapedIdentifier parameter.name) parameter.formatSpecifier]

/-- The value to send: the trimmed text of the parameter, or the fallback when it is empty. -/
def headerValue (template : String) : Expr :=
  .conditional (.binary (.member (.name "headerText") "Length") .greater (.literal (.int 0)))
    (.name "headerText") (.text (headerFallback template))

/-- The block that sends a header. -/
def headerBlock (parameter : Parameter) (template : String) : Stmt :=
  .block
    [.declare "header" (.callMember (headerPair parameter template) "Split"
       [.createArray [.literal (.char ':')], .literal (.int 2)]),
     .declare "headerText" (.callMember (.element (.name "header") 1) "Trim" []),
     .evaluate (.callMember (.member (.name "request") "Headers") "TryAddWithoutValidation"
       [.callMember (.element (.name "header") 0) "Trim" [], headerValue template])]

/-- The blocks of all headers of a method, in the order of its parameters. -/
def headerBlocks (method : Method) : List Stmt :=
  method.parameters.filterMap fun parameter =>
    parameter.binding.headerTemplate?.map (headerBlock parameter)

end TypedClients.Generation
