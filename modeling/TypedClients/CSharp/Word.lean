/-!
# Words of C#

The reserved words, which cannot name anything unless `@` stands in front of them, and the
keyword types, which cannot wrap an awaited value.

Words are compared as they are written, in small letters: a name that differs from a reserved word
in its case is free. The keyword types that are no reserved words, such as `dynamic`, may be names.
-/

namespace TypedClients.CSharp

/-- The reserved words of the language. -/
def reservedWords : List String :=
  ["abstract", "as", "base", "bool", "break", "byte", "case", "catch", "char", "checked", "class",
   "const", "continue", "decimal", "default", "delegate", "do", "double", "else", "enum", "event",
   "explicit", "extern", "false", "finally", "fixed", "float", "for", "foreach", "goto", "if",
   "implicit", "in", "int", "interface", "internal", "is", "lock", "long", "namespace", "new",
   "null", "object", "operator", "out", "override", "params", "private", "protected", "public",
   "readonly", "ref", "return", "sbyte", "sealed", "short", "sizeof", "stackalloc", "static",
   "string", "struct", "switch", "this", "throw", "true", "try", "typeof", "uint", "ulong",
   "unchecked", "unsafe", "ushort", "using", "virtual", "void", "volatile", "while"]

/-- The types that are keywords, and `void`. -/
def predefinedTypes : List String :=
  ["bool", "byte", "char", "decimal", "double", "dynamic", "float", "int", "long", "nint", "nuint",
   "object", "sbyte", "short", "string", "uint", "ulong", "ushort", "void"]

/-- Whether a name is a keyword type. -/
def isPredefinedType (name : String) : Bool :=
  predefinedTypes.contains name

/-- The name as it may be written in code: a reserved word gets an `@`. -/
def escapedIdentifier (name : String) : String :=
  if reservedWords.contains name then "@" ++ name else name

end TypedClients.CSharp
