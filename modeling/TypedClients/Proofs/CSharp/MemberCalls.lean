import TypedClients.Proofs.CSharp.Expressions

/-!
# Calls of members

The calls of a member of an object inside expressions and statements, wherever they stand. A call
by a simple name is none of them.

They are what a token is handed to, while hooks and stubs are called by simple names. The object of
a call is kept with it, since the content of the response is told apart from the content of the
request by its object.
-/

namespace TypedClients.CSharp

/-- A call of a member of an object. -/
structure MemberCall where
  object : Expr
  name : String
  arguments : List Expr

/-- The object and the member that an expression consists of. -/
@[simp]
def Expr.member? : Expr → Option (Expr × String)
  | .member object called => some (object, called)
  | _ => none

mutual

/-- The calls of members inside an expression, the outer one before those inside it. -/
@[simp]
def Expr.memberCalls : Expr → List MemberCall
  | .name _ | .literal _ | .interpolated _ => []
  | .call callee _ arguments =>
    callee.member?.toList.map (fun member => ⟨member.1, member.2, arguments⟩)
      ++ callee.memberCalls ++ memberCallsOfAll arguments
  | .member object _ | .element object _ => object.memberCalls
  | .create _ arguments => memberCallsOfAll arguments
  | .createArray items => memberCallsOfAll items
  | .await operand | .not operand | .isNotNull operand => operand.memberCalls
  | .binary left _ right => left.memberCalls ++ right.memberCalls
  | .conditional condition yes no => condition.memberCalls ++ yes.memberCalls ++ no.memberCalls

/-- The calls of members inside several expressions. -/
@[simp]
def memberCallsOfAll : List Expr → List MemberCall
  | [] => []
  | expr :: others => expr.memberCalls ++ memberCallsOfAll others

end

/-- The calls of members in statements. -/
def memberCallsIn (body : List Stmt) : List MemberCall :=
  (expressionsOf body).flatMap Expr.memberCalls

/-- Without statements no member is called. -/
@[simp] theorem memberCallsIn_nil : memberCallsIn [] = [] := rfl

/-- The member calls of statements are those in the expressions of the first, then those of the
others. -/
@[simp] theorem memberCallsIn_cons (stmt : Stmt) (body : List Stmt) :
    memberCallsIn (stmt :: body) =
      stmt.expressions.flatMap Expr.memberCalls ++ memberCallsIn body := by
  simp [memberCallsIn]

/-- The member calls of two lists of statements stand in the order of the lists. -/
@[simp] theorem memberCallsIn_append (first second : List Stmt) :
    memberCallsIn (first ++ second) = memberCallsIn first ++ memberCallsIn second := by
  simp [memberCallsIn]

end TypedClients.CSharp
