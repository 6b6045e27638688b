import TypedClients.CSharp.Syntax

/-!
# What statements evaluate and call

The expressions that stand in statements, nested statements included, and the calls by a simple
name inside them. A call of a member, such as `response.EnsureSuccessStatusCode()`, is no call by
a simple name; only the methods of the generated class itself are called so. Interpolated strings
are found wherever they stand in an expression.

The lists are taken statement by statement, so what is generated in parts is looked at in parts.
`EachIn` says that a property holds of each expression in some statements, and is the form in which
the theorems about whole methods are put together from those about their parts.
-/

namespace TypedClients.CSharp

/-- A call of a method by its simple name. -/
structure Call where
  callee : String
  arguments : List Expr

/-- The name that an expression consists of. -/
@[simp]
def Expr.simpleName? : Expr → Option String
  | .name path => some path
  | _ => none

mutual

/-- The calls by a simple name inside an expression. -/
@[simp]
def Expr.calls : Expr → List Call
  | .name _ | .literal _ | .interpolated _ => []
  | .call callee _ arguments =>
    callee.simpleName?.toList.map (⟨·, arguments⟩) ++ callee.calls ++ callsOfAll arguments
  | .member object _ | .element object _ => object.calls
  | .create _ arguments => callsOfAll arguments
  | .createArray items => callsOfAll items
  | .await operand | .not operand | .isNotNull operand => operand.calls
  | .binary left _ right => left.calls ++ right.calls
  | .conditional condition yes no => condition.calls ++ yes.calls ++ no.calls

/-- The calls by a simple name inside several expressions. -/
@[simp]
def callsOfAll : List Expr → List Call
  | [] => []
  | expr :: others => expr.calls ++ callsOfAll others

end

mutual

/-- The interpolated strings inside an expression, each by its parts. -/
@[simp]
def Expr.interpolations : Expr → List (List InterpolationPart)
  | .name _ | .literal _ => []
  | .interpolated parts => [parts]
  | .call callee _ arguments => callee.interpolations ++ interpolationsOfAll arguments
  | .member object _ | .element object _ => object.interpolations
  | .create _ arguments => interpolationsOfAll arguments
  | .createArray items => interpolationsOfAll items
  | .await operand | .not operand | .isNotNull operand => operand.interpolations
  | .binary left _ right => left.interpolations ++ right.interpolations
  | .conditional condition yes no =>
    condition.interpolations ++ yes.interpolations ++ no.interpolations

/-- The interpolated strings inside several expressions. -/
@[simp]
def interpolationsOfAll : List Expr → List (List InterpolationPart)
  | [] => []
  | expr :: others => expr.interpolations ++ interpolationsOfAll others

end

mutual

/-- The expressions of a statement. -/
@[simp]
def Stmt.expressions : Stmt → List Expr
  | .declare _ init => [init]
  | .assign target value => [value, target]
  | .evaluate value | .giveBack value => [value]
  | .rethrow | .blank => []
  | .whenTrue condition body => condition :: expressionsOf body
  | .withResource _ init body => init :: expressionsOf body
  | .forEach _ items body => items :: expressionsOf body
  | .block body => expressionsOf body
  | .guarded body handler cleanup =>
    expressionsOf body ++ handlerExpressions handler ++ cleanupExpressions cleanup

/-- The expressions of statements one after the other. -/
@[simp]
def expressionsOf : List Stmt → List Expr
  | [] => []
  | stmt :: body => stmt.expressions ++ expressionsOf body

/-- The expressions of a handler, if there is one. -/
@[simp]
def handlerExpressions : Option (CatchClause (List Stmt)) → List Expr
  | none => []
  | some ⟨_, _, handler⟩ => expressionsOf handler

/-- The expressions of a cleanup, if there is one. -/
@[simp]
def cleanupExpressions : Option (List Stmt) → List Expr
  | none => []
  | some cleanup => expressionsOf cleanup

end

/-- The calls by a simple name in statements. -/
def callsIn (body : List Stmt) : List Call :=
  (expressionsOf body).flatMap Expr.calls

/-- The interpolated strings in statements. -/
def interpolationsIn (body : List Stmt) : List (List InterpolationPart) :=
  (expressionsOf body).flatMap Expr.interpolations

/-- The expressions of statements are those of the first of them, then those of the others. -/
@[simp] theorem expressionsOf_append (first second : List Stmt) :
    expressionsOf (first ++ second) = expressionsOf first ++ expressionsOf second := by
  induction first with
  | nil => rfl
  | cons stmt first inductionHypothesis => simp [inductionHypothesis]

/-- The expressions of a body are those of its statements. -/
theorem mem_expressionsOf {body : List Stmt} {expr : Expr} :
    expr ∈ expressionsOf body ↔ ∃ stmt ∈ body, expr ∈ stmt.expressions := by
  induction body with
  | nil => simp
  | cons stmt body inductionHypothesis => simp [inductionHypothesis]

/-- Without statements nothing is called. -/
@[simp] theorem callsIn_nil : callsIn [] = [] := rfl

/-- The calls of statements are those in the expressions of the first, then those of the others. -/
@[simp] theorem callsIn_cons (stmt : Stmt) (body : List Stmt) :
    callsIn (stmt :: body) = stmt.expressions.flatMap Expr.calls ++ callsIn body := by
  simp [callsIn]

/-- The calls of two lists of statements stand in the order of the lists. -/
@[simp] theorem callsIn_append (first second : List Stmt) :
    callsIn (first ++ second) = callsIn first ++ callsIn second := by
  simp [callsIn]

/-- Without statements there are no interpolated strings. -/
@[simp] theorem interpolationsIn_nil : interpolationsIn [] = [] := rfl

/-- The interpolated strings of statements are those in the expressions of the first, then those of
the others. -/
@[simp] theorem interpolationsIn_cons (stmt : Stmt) (body : List Stmt) :
    interpolationsIn (stmt :: body) =
      stmt.expressions.flatMap Expr.interpolations ++ interpolationsIn body := by
  simp [interpolationsIn]

/-- The interpolated strings of two lists of statements stand in the order of the lists. -/
@[simp] theorem interpolationsIn_append (first second : List Stmt) :
    interpolationsIn (first ++ second) = interpolationsIn first ++ interpolationsIn second := by
  simp [interpolationsIn]

/-- Whether something holds of each expression in some statements. -/
def EachIn (property : Expr → Prop) (body : List Stmt) : Prop :=
  ∀ expr ∈ expressionsOf body, property expr

section EachIn

variable {property : Expr → Prop} {stmt : Stmt} {body : List Stmt}

/-- What is asked of each expression is given where there are no statements. -/
@[simp] theorem eachIn_nil : EachIn property [] := by
  simp [EachIn]

/-- Each expression of statements has a property when those of the first have it, and those of the
others. -/
@[simp] theorem eachIn_cons : EachIn property (stmt :: body) ↔
    (∀ expr ∈ stmt.expressions, property expr) ∧ EachIn property body := by
  simp [EachIn, or_imp, forall_and]

/-- Each expression of two lists of statements has a property when those of either list have it. -/
@[simp] theorem eachIn_append {behind : List Stmt} :
    EachIn property (body ++ behind) ↔ EachIn property body ∧ EachIn property behind := by
  simp [EachIn, or_imp, forall_and]

end EachIn

end TypedClients.CSharp
