import TypedClients.CSharp.Syntax
import TypedClients.CSharp.Word
import TypedClients.Text.Pieces

/-!
# The text of a string expression

A string literal is its own text. An interpolated literal is its parts one after the other, with
the formatted value of a name in place of each hole. Names are those of parameters: the `@` with
which code lifts a reserved word belongs to the spelling and not to the name.

Which text a value is formatted to is left open: it depends on the name and on the format, and a
theorem holds for whatever function says so.
-/

namespace TypedClients.CSharp

/-- The text to which the value of a name is formatted, with or without a format. -/
abbrev FormattedValues := String → Option String → String

/-- The name that an identifier stands for. -/
def denotedName (identifier : String) : String :=
  String.ofList (Text.withoutStart ['@'] identifier.toList)

/-- The text of a part of an interpolated string. -/
def InterpolationPart.textOf (values : FormattedValues) : InterpolationPart → String
  | .text value => value
  | .hole identifier format => values (denotedName identifier) format

/-- The text of an expression that is a string literal or an interpolated string. -/
def Expr.textOf? (values : FormattedValues) : Expr → Option String
  | .literal (.text value) => some value
  | .interpolated parts => some (String.join (parts.map (·.textOf values)))
  | _ => none

/-- The spelling of a name in code stands for that name. A name that begins with `@` itself would
lose its first character here. -/
theorem denotedName_escapedIdentifier (name : String) (plain : name.toList.head? ≠ some '@') :
    denotedName (escapedIdentifier name) = name := by
  unfold escapedIdentifier
  split
  · have spelled : ("@" ++ name).toList = '@' :: name.toList := by
      rw [String.toList_append]
      rfl
    simp [denotedName, spelled, Text.withoutStart, Text.behind?]
  · have unmarked : Text.behind? ['@'] name.toList = none := by
      cases spelled : name.toList with
      | nil => rfl
      | cons first rest =>
        have other : first ≠ '@' := by simpa [spelled] using plain
        simp [Text.behind?, other.symm]
    simp [denotedName, Text.withoutStart, unmarked]

end TypedClients.CSharp
