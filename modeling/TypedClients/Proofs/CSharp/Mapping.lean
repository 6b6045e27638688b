import TypedClients.Proofs.CSharp.Expressions

/-!
# Statements with other expressions

Each expression that stands in a statement is replaced by another one, and everything else of the
statement stays as it is. Only whole expressions are handed over: what becomes of the expressions
inside them is the business of the replacement.

A replacement that leaves the expressions of a statement as they are leaves the statement as it is.
This is how two methods are compared: both are the same statements with other expressions.
-/

namespace TypedClients.CSharp

mutual

/-- A statement with each of its expressions replaced. -/
@[simp]
def Stmt.mapExpressions (change : Expr → Expr) : Stmt → Stmt
  | .declare name init => .declare name (change init)
  | .assign target value => .assign (change target) (change value)
  | .evaluate value => .evaluate (change value)
  | .giveBack value => .giveBack (change value)
  | .rethrow => .rethrow
  | .whenTrue condition body => .whenTrue (change condition) (mapExpressionsIn change body)
  | .withResource name init body => .withResource name (change init) (mapExpressionsIn change body)
  | .forEach item items body => .forEach item (change items) (mapExpressionsIn change body)
  | .block body => .block (mapExpressionsIn change body)
  | .guarded body handler cleanup =>
    .guarded (mapExpressionsIn change body) (mapHandler change handler) (mapCleanup change cleanup)
  | .blank => .blank

/-- Statements with each of their expressions replaced. -/
@[simp]
def mapExpressionsIn (change : Expr → Expr) : List Stmt → List Stmt
  | [] => []
  | stmt :: body => stmt.mapExpressions change :: mapExpressionsIn change body

/-- A handler with each of its expressions replaced. -/
@[simp]
def mapHandler (change : Expr → Expr) :
    Option (CatchClause (List Stmt)) → Option (CatchClause (List Stmt))
  | none => none
  | some ⟨exceptionType, caught, handler⟩ =>
    some ⟨exceptionType, caught, mapExpressionsIn change handler⟩

/-- A cleanup with each of its expressions replaced. -/
@[simp]
def mapCleanup (change : Expr → Expr) : Option (List Stmt) → Option (List Stmt)
  | none => none
  | some cleanup => some (mapExpressionsIn change cleanup)

end

variable {change : Expr → Expr}

/-- A change of the expressions in two lists of statements is one in each of them. -/
@[simp] theorem mapExpressionsIn_append (first second : List Stmt) :
    mapExpressionsIn change (first ++ second) =
      mapExpressionsIn change first ++ mapExpressionsIn change second := by
  induction first with
  | nil => rfl
  | cons stmt first inductionHypothesis => simp [inductionHypothesis]

mutual

/-- A statement whose expressions are replaced by themselves stays as it is. Nothing is asked of a
replacement but on these expressions. -/
theorem Stmt.mapExpressions_eq_self (stmt : Stmt)
    (kept : ∀ expr ∈ stmt.expressions, change expr = expr) : stmt.mapExpressions change = stmt := by
  cases stmt with
  | rethrow | blank => rfl
  | declare | evaluate | giveBack | assign => simp_all
  | whenTrue condition body | withResource name condition body | forEach name condition body =>
    obtain ⟨first, inside⟩ := List.forall_mem_cons.mp kept
    rw [Stmt.mapExpressions, first, mapExpressionsIn_eq_self body inside]
  | block body => rw [Stmt.mapExpressions, mapExpressionsIn_eq_self body kept]
  | guarded body handler cleanup =>
    obtain ⟨tried, cleaned⟩ := List.forall_mem_append.mp kept
    obtain ⟨inBody, handled⟩ := List.forall_mem_append.mp tried
    rw [Stmt.mapExpressions, mapExpressionsIn_eq_self body inBody,
      mapHandler_eq_self handler handled, mapCleanup_eq_self cleanup cleaned]

/-- The same of statements one after the other. -/
theorem mapExpressionsIn_eq_self (body : List Stmt)
    (kept : ∀ expr ∈ expressionsOf body, change expr = expr) :
    mapExpressionsIn change body = body := by
  cases body with
  | nil => rfl
  | cons stmt body =>
    obtain ⟨first, others⟩ := List.forall_mem_append.mp kept
    rw [mapExpressionsIn, stmt.mapExpressions_eq_self first, mapExpressionsIn_eq_self body others]

/-- The same of a handler. -/
theorem mapHandler_eq_self (handler : Option (CatchClause (List Stmt)))
    (kept : ∀ expr ∈ handlerExpressions handler, change expr = expr) :
    mapHandler change handler = handler := by
  obtain _ | ⟨exceptionType, caught, handler⟩ := handler
  · rfl
  · rw [mapHandler, mapExpressionsIn_eq_self handler kept]

/-- The same of a cleanup. -/
theorem mapCleanup_eq_self (cleanup : Option (List Stmt))
    (kept : ∀ expr ∈ cleanupExpressions cleanup, change expr = expr) :
    mapCleanup change cleanup = cleanup := by
  cases cleanup with
  | none => rfl
  | some cleanup => rw [mapCleanup, mapExpressionsIn_eq_self cleanup kept]

end

end TypedClients.CSharp
