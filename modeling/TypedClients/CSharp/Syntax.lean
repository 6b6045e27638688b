/-!
# Syntax of generated C#

The expressions, statements and declarations that a generated client is made of, and no others.
Types are kept as text: they come from the declaration and are not taken apart again.

A name may be a dotted path, as the names of types and of their static members are, and is printed
as it is given. Expressions are nested in themselves and statements in statements, through the
bodies, the handler and the cleanup that some of them have. So a function on them comes with one on
lists and with one for each optional part, and an induction with as many cases.
-/

namespace TypedClients.CSharp

/-- A literal. -/
inductive Literal where
  | text (value : String)
  | char (value : Char)
  | int (value : Nat)
  | bool (value : Bool)
  /-- The word `default`. -/
  | defaultValue
deriving Repr, DecidableEq

/-- A part of an interpolated string. -/
inductive InterpolationPart where
  /-- Literal text, escaped when it is printed. -/
  | text (value : String)
  /-- A hole, written `{name}` or `{name:format}`. -/
  | hole (name : String) (format : Option String)
deriving Repr, DecidableEq

/-- An operator between two operands. -/
inductive BinaryOp where
  | bitOr
  | greater
  | equal
  | and
deriving Repr, DecidableEq

/-- An expression. -/
inductive Expr where
  /-- An identifier, or several with dots between them. -/
  | name (path : String)
  | literal (value : Literal)
  /-- An interpolated string, written `$"…"`. -/
  | interpolated (parts : List InterpolationPart)
  /-- A call, written `callee<types>(arguments)`. -/
  | call (callee : Expr) (types : List String) (arguments : List Expr)
  /-- A member, written `object.name`. -/
  | member (object : Expr) (name : String)
  /-- An element, written `object[index]`. -/
  | element (object : Expr) (index : Nat)
  /-- A new object, written `new type(arguments)`. -/
  | create (type : String) (arguments : List Expr)
  /-- A new array, written `new[] { items }`. -/
  | createArray (items : List Expr)
  /-- An awaited value, written `await operand`. -/
  | await (operand : Expr)
  /-- A negation, written `!operand`. -/
  | not (operand : Expr)
  /-- Two operands, written `left op right`. -/
  | binary (left : Expr) (op : BinaryOp) (right : Expr)
  /-- A test, written `operand is not null`. -/
  | isNotNull (operand : Expr)
  /-- A choice, written `condition ? yes : no`. -/
  | conditional (condition yes no : Expr)
deriving Repr, Inhabited

/-- A handler of exceptions with a body, written `catch (exceptionType caught) { … }`. -/
structure CatchClause (Body : Type) where
  exceptionType : String
  caught : String
  body : Body
deriving Repr

/-- A statement. -/
inductive Stmt where
  /-- A local, written `var name = init;`. -/
  | declare (name : String) (init : Expr)
  /-- An assignment, written `target = value;`. -/
  | assign (target value : Expr)
  /-- An expression for its effect. -/
  | evaluate (value : Expr)
  /-- The end of a method with a value, written `return value;`. -/
  | giveBack (value : Expr)
  /-- The caught exception once more, written `throw;`. -/
  | rethrow
  /-- A condition, written `if (condition) { … }`. -/
  | whenTrue (condition : Expr) (body : List Stmt)
  /-- A resource, written `using (var name = init) { … }`. -/
  | withResource (name : String) (init : Expr) (body : List Stmt)
  /-- A loop, written `foreach (var item in items) { … }`. -/
  | forEach (item : String) (items : Expr) (body : List Stmt)
  /-- A block, written `{ … }`. -/
  | block (body : List Stmt)
  /-- A guard, written `try { … }`, with its handler behind it, if it has one, and with
  `finally { … }` behind that, if it has a cleanup. A cleanup without statements is printed like any
  other one. -/
  | guarded (body : List Stmt) (handler : Option (CatchClause (List Stmt)))
    (cleanup : Option (List Stmt))
  /-- An empty line. -/
  | blank
deriving Repr, Inhabited

/-- A parameter of a method. -/
structure Param where
  type : String
  name : String
deriving Repr, DecidableEq

/-- The head of a method. -/
structure Signature where
  returnType : String
  name : String
  params : List Param
deriving Repr, DecidableEq

/-- A method without a body. -/
structure Prototype where
  /-- Such as `private partial`; empty in an interface. -/
  modifiers : String
  signature : Signature
deriving Repr, DecidableEq

/-- A method with a body. -/
structure MethodDef where
  modifiers : String
  signature : Signature
  body : List Stmt
deriving Repr

/-- An interface, written `public interface name { … }`. -/
structure Interface where
  name : String
  members : List Prototype
deriving Repr

/-- A class, written `public partial class name : bases { … }`. -/
structure Class where
  name : String
  bases : List String
  /-- The declarations of fields, without the semicolons. -/
  fields : List String
  methods : List MethodDef
  /-- The partial methods that the consumer implements. -/
  partialMethods : List Prototype
deriving Repr

/-- A generated file. -/
structure CompilationUnit where
  usings : List String
  /-- Empty for the global namespace. -/
  scope : String
  interface : Interface
  body : Class
deriving Repr

namespace Expr

/-- A member of an expression, called with arguments. -/
def callMember (object : Expr) (name : String) (arguments : List Expr) : Expr :=
  .call (.member object name) [] arguments

/-- A method called by its name. -/
def callName (name : String) (arguments : List Expr) : Expr :=
  .call (.name name) [] arguments

/-- A string literal. -/
def text (value : String) : Expr :=
  .literal (.text value)

end Expr

end TypedClients.CSharp
