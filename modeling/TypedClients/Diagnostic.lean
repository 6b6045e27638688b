/-!
# Diagnostics

A diagnostic is an error at one method of a client. The method is generated all the same, without
the part that the diagnostic is about.

A warning, which the extraction also gives, leaves what is generated as it is, and a diagnostic does
not. With one the run has failed, but only after all files are written.
-/

namespace TypedClients

/-- What is wrong with a method. -/
inductive DiagnosticKind where
  /-- More than one parameter carries content; their names, in order. -/
  | multipleContentParameters (parameters : List String)
deriving Repr, DecidableEq

/-- An error at a method. -/
structure Diagnostic where
  className : String
  methodName : String
  kind : DiagnosticKind
deriving Repr, DecidableEq

namespace Diagnostic

/-- The code of a kind of diagnostic. -/
def code (diagnostic : Diagnostic) : String :=
  match diagnostic.kind with
  | .multipleContentParameters _ => "CG001"

/-- The wording of a diagnostic. -/
def message (diagnostic : Diagnostic) : String :=
  match diagnostic.kind with
  | .multipleContentParameters parameters =>
    diagnostic.code ++ " " ++ diagnostic.className ++ "." ++ diagnostic.methodName
      ++ ": more than one body/form parameter (" ++ String.intercalate ", " parameters
      ++ "); request content is not generated"

end Diagnostic

end TypedClients
