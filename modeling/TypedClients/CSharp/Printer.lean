import TypedClients.CSharp.Escape
import TypedClients.CSharp.Syntax
import TypedClients.Layout

/-!
# Printing C#

An expression prints to one text. Statements and declarations print to layout steps, so that
indentation is nobody's concern but the page's. Parentheses are printed only around an operand of
`!` that is an operation or an awaited value; nothing else that is generated needs any.

The sections of a class are separated by empty lines, of which none stands at an end or next to
another. What is printed depends on the tree alone, and the theorems about reading say when a
printed expression is read back as the tree that it came from.
-/

namespace TypedClients.CSharp

open Layout

/-- A literal. -/
def Literal.print : Literal → String
  | .text value => "\"" ++ escaped value ++ "\""
  | .char value => "'" ++ value.toString ++ "'"
  | .int value => toString value
  | .bool true => "true"
  | .bool false => "false"
  | .defaultValue => "default"

/-- A part of an interpolated string. A format stands as it was given. -/
def InterpolationPart.print : InterpolationPart → String
  | .text value => escapedInterpolated value
  | .hole name none => "\x7b" ++ name ++ "\x7d"
  | .hole name (some format) => "\x7b" ++ name ++ ":" ++ format ++ "\x7d"

/-- An operator. -/
def BinaryOp.print : BinaryOp → String
  | .bitOr => "|"
  | .greater => ">"
  | .equal => "=="
  | .and => "&&"

/-- Type arguments in their brackets, if there are any. -/
def printTypeArguments : List String → String
  | [] => ""
  | types => "<" ++ String.intercalate ", " types ++ ">"

/-- Whether an operand of `!` is put in parentheses, as a comparison, a conjunction and an awaited
value are. Choices, tests for null and combined flags are not looked at: where they are generated
they are arguments, or text taken over as a whole, and never operands of `!`. -/
def Expr.bracketedByNot : Expr → Bool
  | .binary _ op _ => op != .bitOr
  | .await _ => true
  | _ => false

mutual

/-- An expression. -/
def Expr.print : Expr → String
  | .name path => path
  | .literal value => value.print
  | .interpolated parts => "$\"" ++ String.join (parts.map InterpolationPart.print) ++ "\""
  | .call callee types arguments =>
    callee.print ++ printTypeArguments types ++ "(" ++ String.intercalate ", " (printAll arguments)
      ++ ")"
  | .member object name => object.print ++ "." ++ name
  | .element object index => object.print ++ "[" ++ toString index ++ "]"
  | .create type arguments =>
    "new " ++ type ++ "(" ++ String.intercalate ", " (printAll arguments) ++ ")"
  | .createArray items => "new[] \x7b " ++ String.intercalate ", " (printAll items) ++ " \x7d"
  | .await operand => "await " ++ operand.print
  | .not operand =>
    if operand.bracketedByNot then "!(" ++ operand.print ++ ")" else "!" ++ operand.print
  | .binary left op right => left.print ++ " " ++ op.print ++ " " ++ right.print
  | .isNotNull operand => operand.print ++ " is not null"
  | .conditional condition yes no =>
    condition.print ++ " ? " ++ yes.print ++ " : " ++ no.print

/-- Expressions, each by itself. -/
def printAll : List Expr → List String
  | [] => []
  | expr :: others => expr.print :: printAll others

end

/-- A parameter. -/
def Param.print (param : Param) : String :=
  param.type ++ " " ++ param.name

/-- The head of a method. -/
def Signature.print (signature : Signature) : String :=
  signature.returnType ++ " " ++ signature.name ++ "("
    ++ String.intercalate ", " (signature.params.map Param.print) ++ ")"

/-- A method without a body. -/
def Prototype.print (prototype : Prototype) : String :=
  if prototype.modifiers.isEmpty then prototype.signature.print ++ ";"
  else prototype.modifiers ++ " " ++ prototype.signature.print ++ ";"

/-- Steps between braces. -/
def braced (steps : List Step) : List Step :=
  .opening :: steps ++ [.closing]

mutual

/-- The steps of a statement. -/
def Stmt.steps : Stmt → List Step
  | .declare name init => [.line ("var " ++ name ++ " = " ++ init.print ++ ";")]
  | .assign target value => [.line (target.print ++ " = " ++ value.print ++ ";")]
  | .evaluate value => [.line (value.print ++ ";")]
  | .giveBack value => [.line ("return " ++ value.print ++ ";")]
  | .rethrow => [.line "throw;"]
  | .whenTrue condition body => .line ("if (" ++ condition.print ++ ")") :: braced (bodySteps body)
  | .withResource name init body =>
    .line ("using (var " ++ name ++ " = " ++ init.print ++ ")") :: braced (bodySteps body)
  | .forEach item items body =>
    .line ("foreach (var " ++ item ++ " in " ++ items.print ++ ")") :: braced (bodySteps body)
  | .block body => braced (bodySteps body)
  | .guarded body handler cleanup =>
    .line "try" :: braced (bodySteps body) ++ handlerSteps handler ++ cleanupSteps cleanup
  | .blank => [.blank]

/-- The steps of statements one after the other. -/
def bodySteps : List Stmt → List Step
  | [] => []
  | stmt :: body => stmt.steps ++ bodySteps body

/-- The steps of the handler of a guard, if it has one. -/
def handlerSteps : Option (CatchClause (List Stmt)) → List Step
  | none => []
  | some ⟨exceptionType, caught, handler⟩ =>
    .line ("catch (" ++ exceptionType ++ " " ++ caught ++ ")") :: braced (bodySteps handler)

/-- The steps of the cleanup of a guard, if it has one. -/
def cleanupSteps : Option (List Stmt) → List Step
  | none => []
  | some cleanup => .line "finally" :: braced (bodySteps cleanup)

end

/-- The steps of a method with a body. -/
def MethodDef.steps (method : MethodDef) : List Step :=
  .line (method.modifiers ++ " " ++ method.signature.print) :: braced (bodySteps method.body)

/-- The steps of an interface. -/
def Interface.steps (interface : Interface) : List Step :=
  .line ("public interface " ++ interface.name)
    :: braced (interface.members.map fun member => .line member.print)

/-- Sections with an empty line between each two; an empty section is none. -/
def separated (sections : List (List Step)) : List Step :=
  ((sections.filter fun steps => !steps.isEmpty).intersperse [.blank]).flatten

/-- The first line of a class. -/
def Class.heading (definition : Class) : String :=
  if definition.bases.isEmpty then "public partial class " ++ definition.name
  else "public partial class " ++ definition.name ++ " : "
    ++ String.intercalate ", " definition.bases

/-- The steps of a class: its fields, each method and its partial methods are sections. -/
def Class.steps (definition : Class) : List Step :=
  .line definition.heading :: braced (separated
    (definition.fields.map (fun field => .line (field ++ ";"))
      :: definition.methods.map MethodDef.steps
      ++ [definition.partialMethods.map fun prototype => .line prototype.print]))

/-- The first line of every generated file. -/
def generatedHeader : String := "// <auto-generated/>"

/-- The types of a file, outside of any namespace. -/
def CompilationUnit.typeSteps (file : CompilationUnit) : List Step :=
  file.interface.steps ++ .blank :: file.body.steps

/-- The steps of a file. -/
def CompilationUnit.steps (file : CompilationUnit) : List Step :=
  .line generatedHeader :: file.usings.map (fun namespaceName =>
      .line ("using " ++ namespaceName ++ ";"))
    ++ .blank :: (if file.scope.isEmpty then file.typeSteps
      else .line ("namespace " ++ file.scope) :: braced file.typeSteps)

/-- The text of a file. -/
def CompilationUnit.source (file : CompilationUnit) : Except Fault String :=
  render file.steps

end TypedClients.CSharp
