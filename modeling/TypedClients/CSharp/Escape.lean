/-!
# Escapes inside C# literals

Text inside a regular literal has its backslashes, quotes, line feeds, carriage returns and tabs
written as two-character escapes. Inside an interpolated literal a brace would open or close a
hole, so there each brace is written twice as well.

Nothing else is escaped. A line end beyond the two escaped ones goes into the literal as it stands,
which is where the theorems about lines need a hypothesis on the text.
-/

namespace TypedClients.CSharp

/-- One character inside a regular literal. -/
def escapedChar (c : Char) : List Char :=
  if c = '\\' then ['\\', '\\']
  else if c = '"' then ['\\', '"']
  else if c = '\n' then ['\\', 'n']
  else if c = '\r' then ['\\', 'r']
  else if c = '\t' then ['\\', 't']
  else [c]

/-- Text inside a regular literal. -/
def escaped (text : String) : String :=
  String.ofList (text.toList.flatMap escapedChar)

/-- Every brace written twice. -/
def doubledBrace (c : Char) : List Char :=
  if c = '{' ∨ c = '}' then [c, c] else [c]

/-- Literal text inside an interpolated literal. -/
def escapedInterpolated (text : String) : String :=
  String.ofList ((escaped text).toList.flatMap doubledBrace)

end TypedClients.CSharp
