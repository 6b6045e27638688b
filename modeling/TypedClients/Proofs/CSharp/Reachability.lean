import TypedClients.Proofs.CSharp.Execution

/-!
# Reachability of statements

Which statements and which ends of statements can be reached, by the rules of C#. A `return` and a
`throw` end a path. The end of an `if` or of a loop is reached past its body, and that of a `try`
from its own body or from its handler, and through its cleanup, if it has one. The conditions of
generated code are never constants, so a body is reached whenever its condition is. No run reaches
the end of statements whose end cannot be reached by these rules.
-/

namespace TypedClients.CSharp

mutual

/-- Whether the end of a statement can be reached from its beginning. -/
@[simp]
def Stmt.endReachable : Stmt → Bool
  | .giveBack _ | .rethrow => false
  | .withResource _ _ body | .block body => bodyEndReachable body
  | .guarded body handler cleanup =>
    (bodyEndReachable body || handlerEndReachable handler) && cleanupEndReachable cleanup
  | .declare .. | .assign .. | .evaluate _ | .whenTrue .. | .forEach .. | .blank => true

/-- Whether the end of statements one after the other can be reached. -/
@[simp]
def bodyEndReachable : List Stmt → Bool
  | [] => true
  | stmt :: body => stmt.endReachable && bodyEndReachable body

/-- Whether there is a handler whose end can be reached. -/
@[simp]
def handlerEndReachable : Option (CatchClause (List Stmt)) → Bool
  | none => false
  | some ⟨_, _, handler⟩ => bodyEndReachable handler

/-- Whether a cleanup, if there is one, lets its end be reached. -/
@[simp]
def cleanupEndReachable : Option (List Stmt) → Bool
  | none => true
  | some cleanup => bodyEndReachable cleanup

end

mutual

/-- Whether each statement inside a statement can be reached from its beginning. -/
@[simp]
def Stmt.insideReachable : Stmt → Bool
  | .whenTrue _ body | .withResource _ _ body | .forEach _ _ body | .block body =>
    allReachable body
  | .guarded body handler cleanup =>
    allReachable body && handlerReachable handler && cleanupReachable cleanup
  | .declare .. | .assign .. | .evaluate _ | .giveBack _ | .rethrow | .blank => true

/-- Whether each of some statements, and each statement inside them, can be reached: a statement
behind another one only by the end of that one. -/
@[simp]
def allReachable : List Stmt → Bool
  | [] => true
  | stmt :: body =>
    stmt.insideReachable && (body.isEmpty || stmt.endReachable) && allReachable body

/-- Whether each statement of a handler can be reached. -/
@[simp]
def handlerReachable : Option (CatchClause (List Stmt)) → Bool
  | none => true
  | some ⟨_, _, handler⟩ => allReachable handler

/-- Whether each statement of a cleanup can be reached. -/
@[simp]
def cleanupReachable : Option (List Stmt) → Bool
  | none => true
  | some cleanup => allReachable cleanup

end

mutual

/-- The values that a statement gives back somewhere. There is no return without a value. -/
@[simp]
def Stmt.returnValues : Stmt → List Expr
  | .giveBack value => [value]
  | .whenTrue _ body | .withResource _ _ body | .forEach _ _ body | .block body =>
    returnValuesOf body
  | .guarded body handler cleanup =>
    returnValuesOf body ++ handlerReturnValues handler ++ cleanupReturnValues cleanup
  | .declare .. | .assign .. | .evaluate _ | .rethrow | .blank => []

/-- The values that are given back somewhere in a body. -/
@[simp]
def returnValuesOf : List Stmt → List Expr
  | [] => []
  | stmt :: body => stmt.returnValues ++ returnValuesOf body

/-- The values that are given back in a handler. -/
@[simp]
def handlerReturnValues : Option (CatchClause (List Stmt)) → List Expr
  | none => []
  | some ⟨_, _, handler⟩ => returnValuesOf handler

/-- The values that are given back in a cleanup. -/
@[simp]
def cleanupReturnValues : Option (List Stmt) → List Expr
  | none => []
  | some cleanup => returnValuesOf cleanup

end

mutual

/-- The values that a statement gives back somewhere, each behind the conditions of the `if`s that
it stands in, the outermost first. -/
@[simp]
def Stmt.returns : Stmt → List (List Expr × Expr)
  | .giveBack value => [([], value)]
  | .whenTrue condition body =>
    (returnsOf body).map fun found => (condition :: found.1, found.2)
  | .withResource _ _ body | .forEach _ _ body | .block body => returnsOf body
  | .guarded body handler cleanup =>
    returnsOf body ++ handlerReturns handler ++ cleanupReturns cleanup
  | .declare .. | .assign .. | .evaluate _ | .rethrow | .blank => []

/-- The values that are given back somewhere in a body, each behind its conditions. -/
@[simp]
def returnsOf : List Stmt → List (List Expr × Expr)
  | [] => []
  | stmt :: body => stmt.returns ++ returnsOf body

/-- The values that are given back in a handler, each behind its conditions. -/
@[simp]
def handlerReturns : Option (CatchClause (List Stmt)) → List (List Expr × Expr)
  | none => []
  | some ⟨_, _, handler⟩ => returnsOf handler

/-- The values that are given back in a cleanup, each behind its conditions. -/
@[simp]
def cleanupReturns : Option (List Stmt) → List (List Expr × Expr)
  | none => []
  | some cleanup => returnsOf cleanup

end

mutual

/-- The cleanups that stand somewhere in a statement. -/
@[simp]
def Stmt.cleanups : Stmt → List (List Stmt)
  | .whenTrue _ body | .withResource _ _ body | .forEach _ _ body | .block body =>
    cleanupsOf body
  | .guarded body handler cleanup =>
    cleanup.toList ++ (cleanupsOf body ++ handlerCleanups handler ++ cleanupCleanups cleanup)
  | .declare .. | .assign .. | .evaluate _ | .giveBack _ | .rethrow | .blank => []

/-- The cleanups that stand somewhere in a body. -/
@[simp]
def cleanupsOf : List Stmt → List (List Stmt)
  | [] => []
  | stmt :: body => stmt.cleanups ++ cleanupsOf body

/-- The cleanups that stand somewhere in a handler. -/
@[simp]
def handlerCleanups : Option (CatchClause (List Stmt)) → List (List Stmt)
  | none => []
  | some ⟨_, _, handler⟩ => cleanupsOf handler

/-- The cleanups that stand somewhere in a cleanup. -/
@[simp]
def cleanupCleanups : Option (List Stmt) → List (List Stmt)
  | none => []
  | some cleanup => cleanupsOf cleanup

end

/-- The end of two lists of statements can be reached when the ends of both can. -/
@[simp] theorem bodyEndReachable_append (first second : List Stmt) :
    bodyEndReachable (first ++ second) = (bodyEndReachable first && bodyEndReachable second) := by
  induction first with
  | nil => rfl
  | cons stmt first inductionHypothesis => simp [inductionHypothesis, Bool.and_assoc]

/-- All statements of two lists can be reached when all of each list can and, where the second one
has any, the end of the first. -/
@[simp] theorem allReachable_append (first second : List Stmt) :
    allReachable (first ++ second) =
      (allReachable first && (second.isEmpty || bodyEndReachable first) &&
        allReachable second) := by
  induction first with
  | nil => simp
  | cons stmt first inductionHypothesis =>
    cases first <;> cases second <;> simp_all [Bool.and_assoc, Bool.and_comm, Bool.and_left_comm]

/-- The values that two lists of statements give back stand in the order of the lists. -/
@[simp] theorem returnValuesOf_append (first second : List Stmt) :
    returnValuesOf (first ++ second) = returnValuesOf first ++ returnValuesOf second := by
  induction first with
  | nil => rfl
  | cons stmt first inductionHypothesis => simp [inductionHypothesis]

/-- So do the returns with the conditions that they stand behind. -/
@[simp] theorem returnsOf_append (first second : List Stmt) :
    returnsOf (first ++ second) = returnsOf first ++ returnsOf second := by
  induction first with
  | nil => rfl
  | cons stmt first inductionHypothesis => simp [inductionHypothesis]

/-- So do the cleanups. -/
@[simp] theorem cleanupsOf_append (first second : List Stmt) :
    cleanupsOf (first ++ second) = cleanupsOf first ++ cleanupsOf second := by
  induction first with
  | nil => rfl
  | cons stmt first inductionHypothesis => simp [inductionHypothesis]

mutual

/-- The conditions apart, these are the values that a statement gives back. -/
theorem Stmt.returns_values (stmt : Stmt) : stmt.returns.map Prod.snd = stmt.returnValues := by
  cases stmt with
  | declare | assign | evaluate | giveBack | rethrow | blank => rfl
  | whenTrue condition body => simpa [Function.comp_def] using returnsOf_values body
  | withResource _ _ body | forEach _ _ body | block body => exact returnsOf_values body
  | guarded body handler cleanup =>
    simp [returnsOf_values body, handlerReturns_values handler, cleanupReturns_values cleanup]

/-- The conditions apart, these are the values that are given back in a body. -/
theorem returnsOf_values (body : List Stmt) :
    (returnsOf body).map Prod.snd = returnValuesOf body := by
  cases body with
  | nil => rfl
  | cons stmt body => simp [stmt.returns_values, returnsOf_values body]

/-- The same of a handler. -/
theorem handlerReturns_values (handler : Option (CatchClause (List Stmt))) :
    (handlerReturns handler).map Prod.snd = handlerReturnValues handler := by
  obtain _ | ⟨_, _, handler⟩ := handler
  · rfl
  · exact returnsOf_values handler

/-- The same of a cleanup. -/
theorem cleanupReturns_values (cleanup : Option (List Stmt)) :
    (cleanupReturns cleanup).map Prod.snd = cleanupReturnValues cleanup := by
  cases cleanup with
  | none => rfl
  | some cleanup => exact returnsOf_values cleanup

end

/-- A body without values has no returns. -/
theorem returnsOf_eq_nil {body : List Stmt} : returnsOf body = [] ↔ returnValuesOf body = [] := by
  rw [← returnsOf_values, List.map_eq_nil_iff]

mutual

/-- Whether `throw;` stands in handlers alone. -/
@[simp]
def Stmt.rethrowsHandled : Stmt → Bool
  | .rethrow => false
  | .whenTrue _ body | .withResource _ _ body | .forEach _ _ body | .block body =>
    bodyRethrowsHandled body
  | .guarded body _ cleanup => bodyRethrowsHandled body && cleanupRethrowsHandled cleanup
  | .declare .. | .assign .. | .evaluate _ | .giveBack _ | .blank => true

/-- Whether `throw;` stands in the handlers of a body alone. -/
@[simp]
def bodyRethrowsHandled : List Stmt → Bool
  | [] => true
  | stmt :: body => stmt.rethrowsHandled && bodyRethrowsHandled body

/-- Whether `throw;` stands in the handlers of a cleanup alone. -/
@[simp]
def cleanupRethrowsHandled : Option (List Stmt) → Bool
  | none => true
  | some cleanup => bodyRethrowsHandled cleanup

end

/-- Exceptions are thrown again in handlers alone in two lists of statements when this holds of
both. -/
@[simp] theorem bodyRethrowsHandled_append (first second : List Stmt) :
    bodyRethrowsHandled (first ++ second) =
      (bodyRethrowsHandled first && bodyRethrowsHandled second) := by
  induction first with
  | nil => rfl
  | cons stmt first inductionHypothesis => simp [inductionHypothesis, Bool.and_assoc]

section Soundness

variable {Value Failure : Type}

mutual

/-- A run reaches the end of a statement only if that end can be reached. The induction is on the
statement; an exception that is thrown again is one that is being handled. -/
theorem Stmt.endReachable_of_completed (env : Environment Value Failure)
    (handling : Option Failure) (stmt : Stmt) (history : List (Event Value Failure))
    (handled : handling = none → stmt.rethrowsHandled = true)
    (completed : (stmt.run env handling history).outcome = .completed) :
    stmt.endReachable = true := by
  cases stmt with
  | declare | assign | evaluate | whenTrue | forEach | blank => rfl
  | giveBack value =>
    obtain ⟨_, _, left⟩ := Run.completed_of_evaluate completed
    cases left
  | rethrow =>
    cases handling with
    | none => cases handled rfl
    | some failure => cases completed
  | withResource _ init body =>
    obtain ⟨_, after, inside⟩ := Run.completed_of_evaluate completed
    exact bodyEndReachable_of_completed env handling body after handled inside
  | block body => exact bodyEndReachable_of_completed env handling body history handled completed
  | guarded body handler cleanup =>
    have free (none : handling = none) := Bool.and_eq_true_iff.mp (handled none)
    obtain ⟨inside, cleaned⟩ := Run.completed_of_cleanedUpBy completed
    have last := cleanupEndReachable_of_completed env handling cleanup _
      (fun none => (free none).2) cleaned
    rcases Run.completed_of_handledBy inside with tried | ⟨failure, run, taken, inside⟩
    · have ends := bodyEndReachable_of_completed env handling body history
        (fun none => (free none).1) tried
      simp [ends, last]
    · have ends := handlerEndReachable_of_completed env handler failure _ taken inside
      simp [ends, last]

/-- A run reaches the end of a body only if that end can be reached. A statement that no run comes
past makes the rest of the body unreachable. -/
theorem bodyEndReachable_of_completed (env : Environment Value Failure)
    (handling : Option Failure) (body : List Stmt) (history : List (Event Value Failure))
    (handled : handling = none → bodyRethrowsHandled body = true)
    (completed : (runBody env handling body history).outcome = .completed) :
    bodyEndReachable body = true := by
  cases body with
  | nil => rfl
  | cons stmt body =>
    obtain ⟨first, rest⟩ := Run.completed_of_andThen completed
    have both (free : handling = none) := Bool.and_eq_true_iff.mp (handled free)
    have ends := Stmt.endReachable_of_completed env handling stmt history
      (fun free => (both free).1) first
    have others := bodyEndReachable_of_completed env handling body _
      (fun free => (both free).2) rest
    simp [ends, others]

/-- A run reaches the end of a handler only if that end can be reached. An exception is being
handled there, so that any `throw;` is behind it. -/
theorem handlerEndReachable_of_completed (env : Environment Value Failure)
    (handler : Option (CatchClause (List Stmt))) (failure : Failure)
    (history : List (Event Value Failure)) {run : Run Value Failure}
    (taken : runHandler env handler failure history = some run)
    (completed : run.outcome = .completed) : handlerEndReachable handler = true := by
  obtain _ | ⟨exceptionType, _, handler⟩ := handler
  · cases taken
  · rw [runHandler] at taken
    split at taken
    · cases taken
      exact bodyEndReachable_of_completed env (some failure) handler history (by simp) completed
    · cases taken

/-- A run reaches the end of a cleanup only if that end can be reached. -/
theorem cleanupEndReachable_of_completed (env : Environment Value Failure)
    (handling : Option Failure) (cleanup : Option (List Stmt))
    (history : List (Event Value Failure))
    (handled : handling = none → cleanupRethrowsHandled cleanup = true)
    (completed : (runCleanup env handling cleanup history).outcome = .completed) :
    cleanupEndReachable cleanup = true := by
  cases cleanup with
  | none => rfl
  | some cleanup =>
    exact bodyEndReachable_of_completed env handling cleanup history handled completed

end

mutual

/-- A value with which a run leaves a statement is one that the statement gives back somewhere. The
induction is on the statement. -/
theorem Stmt.mem_returnValues_of_returned (env : Environment Value Failure)
    (handling : Option Failure) (stmt : Stmt) (history : List (Event Value Failure))
    {source : Expr} {value : Value}
    (returned : (stmt.run env handling history).outcome = .returned source value) :
    source ∈ stmt.returnValues := by
  cases stmt with
  | declare | evaluate =>
    obtain ⟨_, _, ended⟩ := Run.returned_of_evaluate returned
    cases ended
  | assign target given =>
    obtain ⟨_, _, placed⟩ := Run.returned_of_evaluate returned
    obtain ⟨_, _, ended⟩ := Run.returned_of_evaluate placed
    cases ended
  | giveBack given =>
    obtain ⟨_, _, ended⟩ := Run.returned_of_evaluate returned
    cases ended
    exact List.mem_singleton_self _
  | rethrow => cases handling <;> cases returned
  | whenTrue condition body =>
    obtain ⟨verdict, after, inside⟩ := Run.returned_of_evaluate returned
    by_cases holds : env.isTrue verdict = true
    · rw [if_pos holds] at inside
      exact mem_returnValuesOf_of_returned env handling body after inside
    · rw [if_neg holds] at inside
      cases inside
  | withResource _ init body =>
    obtain ⟨_, after, inside⟩ := Run.returned_of_evaluate returned
    exact mem_returnValuesOf_of_returned env handling body after inside
  | forEach _ items body =>
    obtain ⟨given, after, inside⟩ := Run.returned_of_evaluate returned
    rcases Run.returned_of_andThen inside with looped | ⟨_, ended⟩
    · obtain ⟨later, round⟩ := Run.returned_of_repeated looped
      exact mem_returnValuesOf_of_returned env handling body later round
    · cases broken : (env.elements after given).2 <;> rw [broken] at ended <;> cases ended
  | block body => exact mem_returnValuesOf_of_returned env handling body history returned
  | guarded body handler cleanup =>
    rcases Run.returned_of_cleanedUpBy returned with inside | cleaned
    · rcases Run.returned_of_handledBy inside with tried | ⟨failure, run, taken, handled⟩
      · have among := mem_returnValuesOf_of_returned env handling body history tried
        exact List.mem_append_left _ (List.mem_append_left _ among)
      · have among := mem_handlerReturnValues_of_returned env handler failure _ taken handled
        exact List.mem_append_left _ (List.mem_append_right _ among)
    · have among := mem_cleanupReturnValues_of_returned env handling cleanup _ cleaned
      exact List.mem_append_right _ among
  | blank => cases returned

/-- The same of statements one after the other: the value comes from the one that was left. -/
theorem mem_returnValuesOf_of_returned (env : Environment Value Failure)
    (handling : Option Failure) (body : List Stmt) (history : List (Event Value Failure))
    {source : Expr} {value : Value}
    (returned : (runBody env handling body history).outcome = .returned source value) :
    source ∈ returnValuesOf body := by
  cases body with
  | nil => cases returned
  | cons stmt body =>
    rcases Run.returned_of_andThen returned with first | ⟨after, rest⟩
    · have among := Stmt.mem_returnValues_of_returned env handling stmt history first
      exact List.mem_append_left _ among
    · have among := mem_returnValuesOf_of_returned env handling body after rest
      exact List.mem_append_right _ among

/-- The same of a handler, which is run only where there is one. -/
theorem mem_handlerReturnValues_of_returned (env : Environment Value Failure)
    (handler : Option (CatchClause (List Stmt))) (failure : Failure)
    (history : List (Event Value Failure)) {run : Run Value Failure}
    (taken : runHandler env handler failure history = some run) {source : Expr} {value : Value}
    (returned : run.outcome = .returned source value) : source ∈ handlerReturnValues handler := by
  obtain _ | ⟨exceptionType, _, handler⟩ := handler
  · cases taken
  · rw [runHandler] at taken
    split at taken
    · cases taken
      exact mem_returnValuesOf_of_returned env (some failure) handler history returned
    · cases taken

/-- The same of a cleanup. -/
theorem mem_cleanupReturnValues_of_returned (env : Environment Value Failure)
    (handling : Option Failure) (cleanup : Option (List Stmt))
    (history : List (Event Value Failure)) {source : Expr} {value : Value}
    (returned : (runCleanup env handling cleanup history).outcome = .returned source value) :
    source ∈ cleanupReturnValues cleanup := by
  cases cleanup with
  | none => cases returned
  | some cleanup => exact mem_returnValuesOf_of_returned env handling cleanup history returned

end

end Soundness

/-- A statement that only does something: it leaves nothing, cleans nothing up and has no dead
statement inside. -/
structure Stmt.Plain (stmt : Stmt) : Prop where
  inside : stmt.insideReachable = true
  ends : stmt.endReachable = true
  returnless : stmt.returnValues = []
  cleanupless : stmt.cleanups = []
  rethrowless : stmt.rethrowsHandled = true

/-- A body that only does something. -/
structure PlainBody (body : List Stmt) : Prop where
  reachable : allReachable body = true
  ends : bodyEndReachable body = true
  returnless : returnValuesOf body = []
  cleanupless : cleanupsOf body = []
  rethrowless : bodyRethrowsHandled body = true

/-- A body of plain statements is plain. The induction is on the statements, each of which comes to
its end before the next begins. -/
theorem PlainBody.of_forall {body : List Stmt} (each : ∀ stmt ∈ body, stmt.Plain) :
    PlainBody body := by
  induction body with
  | nil => exact ⟨rfl, rfl, rfl, rfl, rfl⟩
  | cons stmt body inductionHypothesis =>
    obtain ⟨inside, ends, returnless, cleanupless, rethrowless⟩ := each stmt List.mem_cons_self
    have rest := inductionHypothesis fun other member => each other (List.mem_cons_of_mem _ member)
    constructor
    · simp [inside, ends, rest.reachable]
    · simp [ends, rest.ends]
    · simp [returnless, rest.returnless]
    · simp [cleanupless, rest.cleanupless]
    · simp [rethrowless, rest.rethrowless]

/-- Plain bodies one after the other are plain. -/
theorem PlainBody.append {first second : List Stmt} (early : PlainBody first)
    (late : PlainBody second) : PlainBody (first ++ second) where
  reachable := by simp [early.reachable, early.ends, late.reachable]
  ends := by simp [early.ends, late.ends]
  returnless := by simp [early.returnless, late.returnless]
  cleanupless := by simp [early.cleanupless, late.cleanupless]
  rethrowless := by simp [early.rethrowless, late.rethrowless]

end TypedClients.CSharp
