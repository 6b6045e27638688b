import TypedClients.Proofs.CSharp.Expressions

/-!
# Running generated statements

A run of statements is what was evaluated, in order and with the value or the exception that
came of it, and the way in which the statements ended. What comes of an evaluation is up to an
environment that knows everything evaluated before. Each environment gives one run, so what
holds in every environment holds however a run goes.

The rules are those of C# for sequences, `if`, `using`, `foreach`, blocks, `return`, `throw` and
`try` with a handler and a `finally`. An assignment evaluates its value and then its target. The
disposal of a resource neither fails nor shows in the run, and a loop ends after finitely many
rounds. Names are not tracked: a variable has the value that the environment says.
-/

namespace TypedClients.CSharp

/-- An evaluation of an expression, with the value or the exception that came of it. -/
structure Event (Value Failure : Type) where
  expr : Expr
  answer : Except Failure Value

/-- The way in which statements end. -/
inductive Outcome (Value Failure : Type) where
  /-- The end of the last statement was reached. -/
  | completed
  /-- The method was left with the value of an expression. -/
  | returned (source : Expr) (value : Value)
  /-- An exception leaves the statements. -/
  | threw (failure : Failure)

/-- A run of statements. -/
structure Run (Value Failure : Type) where
  trace : List (Event Value Failure)
  outcome : Outcome Value Failure

/-- Whatever decides how a run goes. The lists are the events before. -/
structure Environment (Value Failure : Type) where
  answer : List (Event Value Failure) → Expr → Except Failure Value
  /-- Whether a condition with this value holds. -/
  isTrue : Value → Bool
  /-- How many elements a loop over a value goes through, and the exception that breaks the
  enumeration off behind them, if one does. -/
  elements : List (Event Value Failure) → Value → Nat × Option Failure
  /-- Whether an exception belongs to a type. -/
  isOf : Failure → String → Bool

variable {Value Failure : Type}

/-- Whether a handler for a type takes an exception. One for `System.Exception` takes all. -/
def Environment.catches (env : Environment Value Failure) (exceptionType : String)
    (failure : Failure) : Bool :=
  exceptionType == "System.Exception" || env.isOf failure exceptionType

namespace Run

/-- Nothing is evaluated, and the end is reached. -/
def empty : Run Value Failure := ⟨[], .completed⟩

/-- A run behind an event. -/
def behind (event : Event Value Failure) (run : Run Value Failure) : Run Value Failure :=
  ⟨event :: run.trace, run.outcome⟩

/-- A run after the given events, and the next one if it reaches its end. -/
def andThen (history : List (Event Value Failure)) (first : Run Value Failure)
    (next : List (Event Value Failure) → Run Value Failure) : Run Value Failure :=
  match first.outcome with
  | .completed =>
    let second := next (history ++ first.trace)
    ⟨first.trace ++ second.trace, second.outcome⟩
  | _ => first

/-- A run, and the run of the handler that takes its exception. -/
def handledBy (tried : Run Value Failure) (handler : Failure → Option (Run Value Failure)) :
    Run Value Failure :=
  match tried.outcome with
  | .threw failure =>
    match handler failure with
    | some handled => ⟨tried.trace ++ handled.trace, handled.outcome⟩
    | none => tried
  | _ => tried

/-- A run and the cleanup behind it. The run ends as it did, unless the cleanup itself does not
reach its end. -/
def cleanedUpBy (run cleanup : Run Value Failure) : Run Value Failure :=
  match cleanup.outcome with
  | .completed => ⟨run.trace ++ cleanup.trace, run.outcome⟩
  | outcome => ⟨run.trace ++ cleanup.trace, outcome⟩

/-- Rounds of a loop, as long as each reaches its end. -/
def repeated (round : List (Event Value Failure) → Run Value Failure) :
    Nat → List (Event Value Failure) → Run Value Failure
  | 0, _ => empty
  | count + 1, history => andThen history (round history) (repeated round count)

end Run

/-- An evaluation, and what is done with its value. -/
def Environment.evaluate (env : Environment Value Failure)
    (history : List (Event Value Failure)) (expr : Expr)
    (next : Value → List (Event Value Failure) → Run Value Failure) : Run Value Failure :=
  match env.answer history expr with
  | .ok value => (next value (history ++ [⟨expr, .ok value⟩])).behind ⟨expr, .ok value⟩
  | .error failure => ⟨[⟨expr, .error failure⟩], .threw failure⟩

mutual

/-- The run of a statement. The exception being handled is there inside a handler; `throw;`
stands nowhere else. -/
def Stmt.run (env : Environment Value Failure) (handling : Option Failure) :
    Stmt → List (Event Value Failure) → Run Value Failure
  | .declare _ init, history => env.evaluate history init fun _ _ => .empty
  | .assign target value, history =>
    env.evaluate history value fun _ after => env.evaluate after target fun _ _ => .empty
  | .evaluate value, history => env.evaluate history value fun _ _ => .empty
  | .giveBack value, history =>
    env.evaluate history value fun result _ => ⟨[], .returned value result⟩
  | .rethrow, _ =>
    match handling with
    | some failure => ⟨[], .threw failure⟩
    | none => .empty
  | .whenTrue condition body, history =>
    env.evaluate history condition fun verdict after =>
      if env.isTrue verdict then runBody env handling body after else .empty
  | .withResource _ init body, history =>
    env.evaluate history init fun _ after => runBody env handling body after
  | .forEach _ items body, history =>
    env.evaluate history items fun value after =>
      .andThen after (.repeated (runBody env handling body) (env.elements after value).1 after)
        fun _ => match (env.elements after value).2 with
          | some failure => ⟨[], .threw failure⟩
          | none => .empty
  | .block body, history => runBody env handling body history
  | .guarded body handler cleanup, history =>
    let tried := runBody env handling body history
    let handled := tried.handledBy fun failure =>
      runHandler env handler failure (history ++ tried.trace)
    -- The cleanup is run however the body and the handler ended.
    handled.cleanedUpBy (runCleanup env handling cleanup (history ++ handled.trace))
  | .blank, _ => .empty

/-- The run of statements one after the other. -/
def runBody (env : Environment Value Failure) (handling : Option Failure) :
    List Stmt → List (Event Value Failure) → Run Value Failure
  | [], _ => .empty
  | stmt :: body, history =>
    .andThen history (stmt.run env handling history) (runBody env handling body)

/-- The run of a handler, if there is one and it takes the exception. -/
def runHandler (env : Environment Value Failure) :
    Option (CatchClause (List Stmt)) → Failure → List (Event Value Failure) →
      Option (Run Value Failure)
  | none, _, _ => none
  | some ⟨exceptionType, _, handler⟩, failure, history =>
    if env.catches exceptionType failure then some (runBody env (some failure) handler history)
    else none

/-- The run of a cleanup. Where there is none, nothing is evaluated. -/
def runCleanup (env : Environment Value Failure) (handling : Option Failure) :
    Option (List Stmt) → List (Event Value Failure) → Run Value Failure
  | none, _ => .empty
  | some cleanup, history => runBody env handling cleanup history

end

/-- A run only evaluates expressions of a given kind. -/
def Run.Evaluates (allowed : Expr → Prop) (run : Run Value Failure) : Prop :=
  ∀ event ∈ run.trace, allowed event.expr

namespace Run

variable {allowed : Expr → Prop} {history : List (Event Value Failure)}

/-- A run without events evaluates nothing, and so nothing that is not allowed. -/
theorem Evaluates.empty : (empty : Run Value Failure).Evaluates allowed := by
  intro event member
  cases member

/-- Runs one after the other evaluate what is allowed when both do. Whether the second one takes
place plays no part. -/
theorem Evaluates.andThen {first : Run Value Failure}
    {next : List (Event Value Failure) → Run Value Failure} (start : first.Evaluates allowed)
    (rest : ∀ after, (next after).Evaluates allowed) :
    (andThen history first next).Evaluates allowed := by
  unfold Run.andThen
  split
  · intro event member
    rcases List.mem_append.mp member with early | late
    · exact start event early
    · exact rest _ event late
  · exact start

/-- An evaluation and what follows evaluate what is allowed when the expression is and what follows
does, for every value that may come of it. -/
theorem Evaluates.evaluate {env : Environment Value Failure} {expr : Expr}
    {next : Value → List (Event Value Failure) → Run Value Failure} (first : allowed expr)
    (rest : ∀ value after, (next value after).Evaluates allowed) :
    (env.evaluate history expr next).Evaluates allowed := by
  unfold Environment.evaluate
  split
  · intro event member
    rcases List.mem_cons.mp member with rfl | late
    · exact first
    · exact rest _ _ event late
  · intro event member
    rcases List.mem_singleton.mp member with rfl
    exact first

/-- The rounds of a loop evaluate what is allowed when each round does, whatever was evaluated
before it. The induction is on the number of rounds. -/
theorem Evaluates.repeated {round : List (Event Value Failure) → Run Value Failure}
    (each : ∀ after, (round after).Evaluates allowed) (count : Nat)
    (history : List (Event Value Failure)) :
    (repeated round count history).Evaluates allowed := by
  induction count generalizing history with
  | zero => exact .empty
  | succ count inductionHypothesis => exact .andThen (each history) inductionHypothesis

/-- A run with a handler evaluates what is allowed when the run does, and every run of the handler.
-/
theorem Evaluates.handledBy {tried : Run Value Failure}
    {handler : Failure → Option (Run Value Failure)} (start : tried.Evaluates allowed)
    (handled : ∀ failure run, handler failure = some run → run.Evaluates allowed) :
    (tried.handledBy handler).Evaluates allowed := by
  unfold Run.handledBy
  split
  · rename_i failure _
    split
    · rename_i run taken
      intro event member
      rcases List.mem_append.mp member with early | late
      · exact start event early
      · exact handled failure run taken event late
    · exact start
  · exact start

/-- A run with a cleanup evaluates what is allowed when both do, whether the cleanup comes to its
end or not. -/
theorem Evaluates.cleanedUpBy {run cleanup : Run Value Failure}
    (start : run.Evaluates allowed) (rest : cleanup.Evaluates allowed) :
    (run.cleanedUpBy cleanup).Evaluates allowed := by
  have all : ∀ event ∈ run.trace ++ cleanup.trace, allowed event.expr := by
    intro event member
    rcases List.mem_append.mp member with early | late
    · exact start event early
    · exact rest event late
  unfold Run.cleanedUpBy
  split
  · exact all
  · exact all

end Run

mutual

/-- A run of a statement only evaluates the expressions that stand in it. The induction is on the
statement; the rounds of a loop are behind the statement for its body. -/
theorem Stmt.run_evaluates (env : Environment Value Failure) (handling : Option Failure)
    {allowed : Expr → Prop} (stmt : Stmt) (history : List (Event Value Failure))
    (all : ∀ expr ∈ stmt.expressions, allowed expr) :
    (stmt.run env handling history).Evaluates allowed := by
  cases stmt with
  | declare _ init =>
    exact .evaluate (all init (by simp [Stmt.expressions])) fun _ _ => .empty
  | assign target value =>
    exact .evaluate (all value (by simp [Stmt.expressions])) fun _ _ =>
      .evaluate (all target (by simp [Stmt.expressions])) fun _ _ => .empty
  | evaluate value =>
    exact .evaluate (all value (by simp [Stmt.expressions])) fun _ _ => .empty
  | giveBack value =>
    exact .evaluate (all value (by simp [Stmt.expressions])) fun _ _ => .empty
  | rethrow => cases handling <;> exact .empty
  | whenTrue condition body =>
    have inside : ∀ expr ∈ expressionsOf body, allowed expr :=
      fun expr member => all expr (by simp [Stmt.expressions, member])
    refine .evaluate (all condition (by simp [Stmt.expressions])) fun verdict after => ?_
    by_cases holds : env.isTrue verdict
    · simpa only [holds, if_true] using runBody_evaluates env handling body after inside
    · simpa only [holds, if_false] using .empty
  | withResource _ init body =>
    have inside : ∀ expr ∈ expressionsOf body, allowed expr :=
      fun expr member => all expr (by simp [Stmt.expressions, member])
    exact .evaluate (all init (by simp [Stmt.expressions])) fun _ after =>
      runBody_evaluates env handling body after inside
  | forEach _ items body =>
    have inside : ∀ expr ∈ expressionsOf body, allowed expr :=
      fun expr member => all expr (by simp [Stmt.expressions, member])
    refine .evaluate (all items (by simp [Stmt.expressions])) fun value after => ?_
    refine .andThen (.repeated (fun later => runBody_evaluates env handling body later inside) _ _)
      fun _ => ?_
    cases (env.elements after value).2 <;> exact .empty
  | block body => exact runBody_evaluates env handling body history all
  | guarded body handler cleanup =>
    have inside : ∀ expr ∈ expressionsOf body, allowed expr :=
      fun expr member => all expr (by simp [Stmt.expressions, member])
    have handling' : ∀ expr ∈ handlerExpressions handler, allowed expr :=
      fun expr member => all expr (by simp [Stmt.expressions, member])
    have cleaning : ∀ expr ∈ cleanupExpressions cleanup, allowed expr :=
      fun expr member => all expr (by simp [Stmt.expressions, member])
    exact .cleanedUpBy (.handledBy (runBody_evaluates env handling body history inside)
        fun failure run => runHandler_evaluates env handler failure _ handling')
      (runCleanup_evaluates env handling cleanup _ cleaning)
  | blank => exact .empty

/-- A run of statements only evaluates the expressions that stand in them, in those that are
reached. -/
theorem runBody_evaluates (env : Environment Value Failure) (handling : Option Failure)
    {allowed : Expr → Prop} (body : List Stmt) (history : List (Event Value Failure))
    (all : ∀ expr ∈ expressionsOf body, allowed expr) :
    (runBody env handling body history).Evaluates allowed := by
  cases body with
  | nil => exact .empty
  | cons stmt body =>
    have first : ∀ expr ∈ stmt.expressions, allowed expr :=
      fun expr member => all expr (by simp [expressionsOf, member])
    have rest : ∀ expr ∈ expressionsOf body, allowed expr :=
      fun expr member => all expr (by simp [expressionsOf, member])
    exact .andThen (Stmt.run_evaluates env handling stmt history first) fun after =>
      runBody_evaluates env handling body after rest

/-- A run of a handler only evaluates the expressions that stand in it. Without a handler there is
no run of one. -/
theorem runHandler_evaluates (env : Environment Value Failure) {allowed : Expr → Prop}
    (handler : Option (CatchClause (List Stmt))) (failure : Failure)
    (history : List (Event Value Failure)) (all : ∀ expr ∈ handlerExpressions handler, allowed expr)
    {run : Run Value Failure} (taken : runHandler env handler failure history = some run) :
    run.Evaluates allowed := by
  obtain _ | ⟨exceptionType, caught, handler⟩ := handler
  · cases taken
  · rw [runHandler] at taken
    split at taken
    · cases taken
      exact runBody_evaluates env (some failure) handler history all
    · cases taken

/-- A run of a cleanup only evaluates the expressions that stand in it. -/
theorem runCleanup_evaluates (env : Environment Value Failure) (handling : Option Failure)
    {allowed : Expr → Prop} (cleanup : Option (List Stmt)) (history : List (Event Value Failure))
    (all : ∀ expr ∈ cleanupExpressions cleanup, allowed expr) :
    (runCleanup env handling cleanup history).Evaluates allowed := by
  cases cleanup with
  | none => exact .empty
  | some cleanup => exact runBody_evaluates env handling cleanup history all

end

namespace Run

/-- A run after the empty one. -/
@[simp] theorem empty_andThen (history : List (Event Value Failure))
    (next : List (Event Value Failure) → Run Value Failure) :
    andThen history empty next = next history := by
  simp [andThen, empty]

/-- The next run of a run that does not reach its end is none. -/
theorem andThen_of_left (history : List (Event Value Failure)) {first : Run Value Failure}
    (next : List (Event Value Failure) → Run Value Failure)
    (left : first.outcome ≠ .completed) : andThen history first next = first := by
  unfold andThen
  split
  · rename_i completed
    exact absurd completed left
  · rfl

/-- The next run of a run that reaches its end follows it. -/
theorem andThen_of_completed (history : List (Event Value Failure))
    {first : Run Value Failure} (next : List (Event Value Failure) → Run Value Failure)
    (completed : first.outcome = .completed) :
    andThen history first next = ⟨first.trace ++ (next (history ++ first.trace)).trace,
      (next (history ++ first.trace)).outcome⟩ := by
  simp [andThen, completed]

/-- Two runs one after the other reach the end of both. -/
theorem completed_of_andThen {history : List (Event Value Failure)} {first : Run Value Failure}
    {next : List (Event Value Failure) → Run Value Failure}
    (completed : (andThen history first next).outcome = .completed) :
    first.outcome = .completed ∧ (next (history ++ first.trace)).outcome = .completed := by
  by_cases early : first.outcome = .completed
  · rw [andThen_of_completed history next early] at completed
    exact ⟨early, completed⟩
  · rw [andThen_of_left history next early] at completed
    exact absurd completed early

/-- Of three runs one after the other it does not matter which two are taken together: each starts
with the events of those before it, and the first that does not come to its end is the last. -/
theorem andThen_assoc (history : List (Event Value Failure)) (first : Run Value Failure)
    (second third : List (Event Value Failure) → Run Value Failure) :
    andThen history (andThen history first second) third =
      andThen history first fun after => andThen after (second after) third := by
  by_cases completed : first.outcome = .completed
  · rw [andThen_of_completed history second completed, andThen_of_completed _ _ completed]
    by_cases again : (second (history ++ first.trace)).outcome = .completed
    · simp [andThen, again, List.append_assoc]
    · rw [andThen_of_left _ third again]
      exact andThen_of_left history third again
  · rw [andThen_of_left _ second completed, andThen_of_left _ third completed,
      andThen_of_left _ _ completed]

/-- A run with a cleanup reaches its end only when both do. -/
theorem completed_of_cleanedUpBy {run cleanup : Run Value Failure}
    (completed : (run.cleanedUpBy cleanup).outcome = .completed) :
    run.outcome = .completed ∧ cleanup.outcome = .completed := by
  unfold cleanedUpBy at completed
  split at completed
  · rename_i finished
    exact ⟨completed, finished⟩
  · rename_i left
    exact absurd completed left

/-- A run that reaches its end does so with a cleanup that reaches its end. -/
theorem cleanedUpBy_completes {run cleanup : Run Value Failure}
    (completed : run.outcome = .completed) (cleaned : cleanup.outcome = .completed) :
    (run.cleanedUpBy cleanup).outcome = .completed := by
  simp [cleanedUpBy, completed, cleaned]

/-- A run with a handler reaches its end by itself or through the handler, which is run for the
exception that came out. -/
theorem completed_of_handledBy {tried : Run Value Failure}
    {handler : Failure → Option (Run Value Failure)}
    (completed : (tried.handledBy handler).outcome = .completed) :
    tried.outcome = .completed ∨
      ∃ failure handled, handler failure = some handled ∧ handled.outcome = .completed := by
  unfold handledBy at completed
  split at completed
  · rename_i failure thrown
    split at completed
    · rename_i handled taken
      exact Or.inr ⟨failure, handled, taken, completed⟩
    · exact Or.inl completed
  · exact Or.inl completed

/-- Two runs one after the other that are left with a value are left with it by one of them. The
second one is not run when the first is left. -/
theorem returned_of_andThen {history : List (Event Value Failure)} {first : Run Value Failure}
    {next : List (Event Value Failure) → Run Value Failure} {source : Expr} {value : Value}
    (returned : (andThen history first next).outcome = .returned source value) :
    first.outcome = .returned source value ∨
      ∃ after, (next after).outcome = .returned source value := by
  by_cases early : first.outcome = .completed
  · rw [andThen_of_completed history next early] at returned
    exact Or.inr ⟨_, returned⟩
  · rw [andThen_of_left history next early] at returned
    exact Or.inl returned

/-- A loop that is left with a value is left with it by one of its rounds. The induction is on the
number of rounds. -/
theorem returned_of_repeated {round : List (Event Value Failure) → Run Value Failure}
    {source : Expr} {value : Value} {count : Nat} {history : List (Event Value Failure)}
    (returned : (repeated round count history).outcome = .returned source value) :
    ∃ after, (round after).outcome = .returned source value := by
  induction count generalizing history with
  | zero => cases returned
  | succ count inductionHypothesis =>
    rcases returned_of_andThen returned with first | ⟨after, rest⟩
    · exact ⟨history, first⟩
    · exact inductionHypothesis rest

/-- A run with a cleanup that is left with a value is left with it by one of the two. -/
theorem returned_of_cleanedUpBy {run cleanup : Run Value Failure} {source : Expr} {value : Value}
    (returned : (run.cleanedUpBy cleanup).outcome = .returned source value) :
    run.outcome = .returned source value ∨ cleanup.outcome = .returned source value := by
  unfold cleanedUpBy at returned
  split at returned
  · exact Or.inl returned
  · exact Or.inr returned

/-- A run with a handler that is left with a value is left with it by itself or by the handler. -/
theorem returned_of_handledBy {tried : Run Value Failure}
    {handler : Failure → Option (Run Value Failure)} {source : Expr} {value : Value}
    (returned : (tried.handledBy handler).outcome = .returned source value) :
    tried.outcome = .returned source value ∨ ∃ failure handled,
      handler failure = some handled ∧ handled.outcome = .returned source value := by
  unfold handledBy at returned
  split at returned
  · rename_i failure thrown
    split at returned
    · rename_i handled taken
      exact Or.inr ⟨failure, handled, taken, returned⟩
    · exact Or.inl returned
  · exact Or.inl returned

/-- An evaluation whose run is left with a value is left with it by what is done with its own. -/
theorem returned_of_evaluate {env : Environment Value Failure}
    {history : List (Event Value Failure)} {expr source : Expr} {value : Value}
    {next : Value → List (Event Value Failure) → Run Value Failure}
    (returned : (env.evaluate history expr next).outcome = .returned source value) :
    ∃ result after, (next result after).outcome = .returned source value := by
  unfold Environment.evaluate at returned
  split at returned
  · exact ⟨_, _, returned⟩
  · cases returned

/-- An evaluation and what is done with its value reach the end of the latter. -/
theorem completed_of_evaluate {env : Environment Value Failure}
    {history : List (Event Value Failure)} {expr : Expr}
    {next : Value → List (Event Value Failure) → Run Value Failure}
    (completed : (env.evaluate history expr next).outcome = .completed) :
    ∃ value after, (next value after).outcome = .completed := by
  unfold Environment.evaluate at completed
  split at completed
  · exact ⟨_, _, completed⟩
  · cases completed

end Run

/-- Statements behind others run after them, with what the others have evaluated before, and not at
all when one of the others is left. -/
theorem runBody_append (env : Environment Value Failure) (handling : Option Failure)
    (first second : List Stmt) (history : List (Event Value Failure)) :
    runBody env handling (first ++ second) history =
      .andThen history (runBody env handling first history) (runBody env handling second) := by
  induction first generalizing history with
  | nil => simp [runBody]
  | cons stmt first inductionHypothesis =>
    have later : runBody env handling (first ++ second) = fun after =>
        .andThen after (runBody env handling first after) (runBody env handling second) :=
      funext inductionHypothesis
    simp only [List.cons_append, runBody, later, Run.andThen_assoc]

/-- A single statement runs alone. -/
theorem runBody_singleton (env : Environment Value Failure) (handling : Option Failure)
    (stmt : Stmt) (history : List (Event Value Failure)) :
    runBody env handling [stmt] history = stmt.run env handling history := by
  by_cases completed : (stmt.run env handling history).outcome = .completed
  · rw [runBody, Run.andThen_of_completed _ _ completed]
    cases result : stmt.run env handling history
    simp_all [runBody, Run.empty]
  · rw [runBody, Run.andThen_of_left _ _ completed]

end TypedClients.CSharp
