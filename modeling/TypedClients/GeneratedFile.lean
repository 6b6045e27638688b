import TypedClients.AttributeDefinitions
import TypedClients.Extraction
import TypedClients.Generation.ClientUnit

/-!
# Generated files

What generation makes of one class declaration: a file with its name, and the diagnostics found
on the way.

The name of a file is that of its class with a fixed ending, and is not looked at any further. A
layout that cannot be finished would be a fault of the generation itself. It is kept as a case, and
the theorems about balance show that it does not come up.
-/

namespace TypedClients

/-- A file to write. -/
structure GeneratedFile where
  name : String
  text : String
deriving Repr, DecidableEq

/-- The file of a client, with its diagnostics. -/
structure GeneratedClient where
  file : GeneratedFile
  diagnostics : List Diagnostic
deriving Repr, DecidableEq

/-- A client whose file could not be laid out. -/
structure LayoutFailure where
  className : String
  fault : Layout.Fault
deriving Repr, DecidableEq

/-- The wording of a failure. -/
def LayoutFailure.message (failure : LayoutFailure) : String :=
  match failure.fault with
  | .leftOpen depth =>
    "generated source for " ++ failure.className ++ " has " ++ toString depth
      ++ " unclosed block(s)"
  | .notOpen => failure.fault.message

/-- Generate the file of one class. -/
def generateClient (declared : ClassDeclaration) (defaults : Defaults) :
    Except LayoutFailure GeneratedClient :=
  let client := Extraction.extractClient declared defaults
  match (Generation.clientUnit client).source with
  | .error fault => .error { className := client.className, fault }
  | .ok text =>
    .ok { file := { name := client.fileName, text }
          diagnostics := Extraction.diagnostics client }

/-- The file with the attribute definitions. -/
def attributeFile (scope : String) : GeneratedFile where
  name := AttributeDefinitions.fileName
  text := AttributeDefinitions.print scope

/-- Make the file with the attribute definitions from its template. -/
def generateAttributes (scope : String) :
    Except AttributeDefinitions.RenderFault GeneratedFile := do
  let text ← AttributeDefinitions.rendered scope
  return { name := AttributeDefinitions.fileName, text }

/-- There is such a file for every namespace. -/
theorem generateAttributes_eq (scope : String) :
    generateAttributes scope = .ok (attributeFile scope) := by
  rw [generateAttributes, AttributeDefinitions.rendered_eq]
  rfl

end TypedClients
