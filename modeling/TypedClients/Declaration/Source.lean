import TypedClients.Declaration.Decode
import TypedClients.Json.Reader
import TypedClients.Yaml.Reader

/-!
# Declaration texts

A declaration text is JSON or YAML. A fault of the text itself is told apart from a text that is
fine but whose document is no declaration.

The two formats share the documents that they denote and the decoding of these. They differ in what
a fault of the text tells: a place for JSON, a rule for YAML. Of a text with several documents, or
with something behind its first one, the first is decoded before the rest is found to be too much.
-/

namespace TypedClients.Declaration

/-- The format of a declaration text. -/
inductive Format where
  | json
  | yaml
deriving Repr, DecidableEq

/-- Why a text gives no declarations. -/
inductive Fault where
  /-- The text is not JSON. -/
  | json (fault : Json.Fault) (text : String)
  /-- The text is not YAML. -/
  | yaml (fault : Yaml.Fault)
  /-- The document fits neither a list of classes nor a class. -/
  | mismatch (format : Format)
deriving Repr, DecidableEq

/-- The wording for a document that is no declaration. -/
def mismatchMessage : String :=
  "data did not match any variant of untagged enum DeclarationFile"

/-- The wording of a fault. -/
def Fault.message : Fault → String
  | .json fault text => "invalid JSON declaration: " ++ fault.message text
  | .yaml fault => "invalid YAML declaration: " ++ fault.message
  | .mismatch .json => "invalid JSON declaration: " ++ mismatchMessage
  | .mismatch .yaml => "invalid YAML declaration: " ++ mismatchMessage

/-- The declarations of a JSON text. Whether the first value is a declaration is looked at before
what stands behind it. -/
def readJson (text : String) : Except Fault (List ClassDeclaration) :=
  match Json.readFirst text with
  | .error fault => .error (.json fault text)
  | .ok (document, rest) =>
    match decode document with
    | none => .error (.mismatch .json)
    | some classes =>
      match Json.checkEnd rest with
      | .error fault => .error (.json fault text)
      | .ok () => .ok classes

/-- The declarations of a YAML text, looked at in the same order. -/
def readYaml (text : String) : Except Fault (List ClassDeclaration) :=
  match Yaml.readFirst text with
  | .error fault => .error (.yaml fault)
  | .ok (document, rest) =>
    match decode document with
    | none => .error (.mismatch .yaml)
    | some classes =>
      match Yaml.checkEnd rest with
      | .error fault => .error (.yaml fault)
      | .ok () => .ok classes

/-- The declarations of a text. -/
def read (format : Format) (text : String) : Except Fault (List ClassDeclaration) :=
  match format with
  | .json => readJson text
  | .yaml => readYaml text

end TypedClients.Declaration
