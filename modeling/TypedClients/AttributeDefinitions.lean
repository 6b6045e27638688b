import TypedClients.Defaults

/-!
# The attribute definitions of a project

Besides its clients a project gets one file that defines the attributes and the enumeration with
which clients are declared. It depends on nothing but the namespace to put them into.

The file is a template with one hole, which is filled from a list of values by name. Filling fails
for a hole without a value, so that whoever asks for the file has to reckon with a failure; that the
hole of this template always has one is `rendered_eq`.
-/

namespace TypedClients.AttributeDefinitions

/-- The definition of an attribute: what it may stand at, and its members. -/
structure Definition where
  /-- The name without the suffix `Attribute`. -/
  name : String
  /-- The member of `System.AttributeTargets`. -/
  target : String
  /-- The members, each on a line. -/
  members : List String

/-- An attribute with one value, which its constructor takes and a property gives back. -/
def valued (name target type parameter property : String) : Definition where
  name := name
  target := target
  members :=
    ["public " ++ name ++ "Attribute(" ++ type ++ " " ++ parameter ++ ") => " ++ property ++ " = "
       ++ (parameter.takeWhile (· != ' ')).toString ++ ";",
     "public " ++ type ++ " " ++ property ++ " \x7b get; \x7d"]

/-- The attributes, in the order of the file. -/
def all : List Definition :=
  [{ name := "ApiClientGenerator"
     target := "Class"
     members :=
       ["public bool NetCore \x7b get; set; \x7d",
        "public Serialization Serialization \x7b get; set; \x7d = Serialization.Newtonsoft;",
        "public int ConnectionTooLongWarn \x7b get; set; \x7d"] },
   valued "Get" "Method" "string" "path" "Path",
   valued "Post" "Method" "string" "path" "Path",
   valued "Put" "Method" "string" "path" "Path",
   valued "Delete" "Method" "string" "path" "Path",
   valued "ThrowsExceptions" "Method" "bool" "throws = true" "Throws",
   valued "Serialization" "Method" "Serialization" "mode" "Mode",
   valued "ConnectionTooLongWarn" "Method" "int" "milliseconds" "Milliseconds",
   valued "Body" "Parameter" "bool" "form = false" "Form",
   valued "Header" "Parameter" "string" "header" "Header",
   valued "AliasAs" "Parameter" "string" "name" "Name",
   valued "Fmt" "Parameter" "string" "format" "Format"]

/-- A line inside the namespace, at a depth of four blanks each. -/
def lineAt (depth : Nat) (text : String) : String :=
  String.ofList (List.replicate (4 * depth) ' ') ++ text ++ "\n"

/-- The text of a definition. -/
def Definition.print (definition : Definition) : String :=
  lineAt 1 ("[System.AttributeUsage(System.AttributeTargets." ++ definition.target
      ++ ", AllowMultiple = false, Inherited = false)]")
    ++ lineAt 1 ("public sealed class " ++ definition.name ++ "Attribute : System.Attribute")
    ++ lineAt 1 "\x7b"
    ++ String.intercalate "\n" (definition.members.map (lineAt 2))
    ++ lineAt 1 "\x7d"

/-- The enumeration of the serializers. -/
def enumeration : String :=
  lineAt 1 "public enum Serialization" ++ lineAt 1 "\x7b" ++ lineAt 2 "Inherit,"
    ++ lineAt 2 "Newtonsoft," ++ lineAt 2 "SystemTextJson," ++ lineAt 2 "Custom"
    ++ lineAt 1 "\x7d"

/-- The name of the file. -/
def fileName : String := "Common.g.cs"

/-- The namespace to use for a setting: without blanks around it, and the standard one for
nothing. -/
def effectiveNamespace (scope : String) : String :=
  if (Text.trimmed scope).isEmpty then defaultRootNamespace else Text.trimmed scope

/-- The enumeration and the attributes, with an empty line between each two. -/
def definitions : String :=
  String.intercalate "\n" (enumeration :: all.map Definition.print)

/-- The text of the file. The namespace goes into it as it is. -/
def print (scope : String) : String :=
  "// <auto-generated/>\n" ++ "namespace " ++ effectiveNamespace scope ++ "\n" ++ "\x7b\n"
    ++ definitions ++ "\x7d\n"

/-! ## The template -/

/-- A part of a template. -/
inductive TemplatePart where
  | text (text : String)
  /-- A place for a value, by the name of the value. -/
  | hole (name : String)
deriving Repr, DecidableEq

/-- A hole for which there is no value. -/
structure RenderFault where
  hole : String
deriving Repr, DecidableEq

/-- The wording of a fault. It does not tell which hole it is. -/
def RenderFault.message (_ : RenderFault) : String :=
  "Failed to render " ++ fileName
    ++ ": failed to render attribute template: Failed to render '__tera_one_off'"

/-- The text of a part. -/
def TemplatePart.fill (values : List (String × String)) : TemplatePart → Except RenderFault String
  | .text given => .ok given
  | .hole name => (values.lookup name).elim (.error ⟨name⟩) .ok

/-- The parts of the file. -/
def template : List TemplatePart :=
  [.text "// <auto-generated/>\nnamespace ", .hole "ns", .text "\n\x7b\n", .text definitions,
   .text "\x7d\n"]

/-- The text of the file as it comes out of the template. -/
def rendered (scope : String) : Except RenderFault String :=
  (template.mapM (TemplatePart.fill [("ns", effectiveNamespace scope)])).map String.join

/-- The template has the text of the file for every namespace: its one hole has a value. -/
theorem rendered_eq (scope : String) : rendered scope = .ok (print scope) := by
  unfold rendered template print
  generalize effectiveNamespace scope = space
  generalize definitions = text
  have filled : ([.text "// <auto-generated/>\nnamespace ", .hole "ns", .text "\n\x7b\n",
      .text text, .text "\x7d\n"] : List TemplatePart).mapM (TemplatePart.fill [("ns", space)]) =
        .ok ["// <auto-generated/>\nnamespace ", space, "\n\x7b\n", text, "\x7d\n"] := by
    rfl
  rw [filled]
  simp [Except.map, String.join, String.append_assoc]

end TypedClients.AttributeDefinitions
