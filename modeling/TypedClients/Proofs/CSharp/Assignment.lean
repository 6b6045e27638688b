import TypedClients.Proofs.CSharp.Reachability
import TypedClients.Proofs.CSharp.Trace

/-!
# Assignments and what follows them

Which values statements assign to a member of an object, and what a run has done by the time at
which it evaluates an expression of some kind. Such an expression may be evaluated more than once,
or never; an environment in which nothing fails shows that it is not never.

Both are proved along the run of a body, with one lemma for each way in which a run goes on: an
evaluation, a statement behind another, a guarded statement. A statement that is guarded runs its
body, perhaps its handler, and its cleanup in any case, so its trace is cut into three, of which two
may be empty.
-/

namespace TypedClients.CSharp

/-! ## Assigned values -/

/-- An expression is a member of an object that a name stands for. -/
@[simp]
def Expr.isMember (object member : String) : Expr → Bool
  | .member (.name owner) property => owner = object && property = member
  | _ => false

mutual

/-- The values that a statement assigns to a member of an object, in the order of the text. -/
@[simp]
def Stmt.assigned (object member : String) : Stmt → List Expr
  | .assign target value => if target.isMember object member then [value] else []
  | .whenTrue _ body | .withResource _ _ body | .forEach _ _ body | .block body =>
    assignedIn object member body
  | .guarded body handler cleanup =>
    assignedIn object member body ++ handlerAssigned object member handler ++
      cleanupAssigned object member cleanup
  | .declare .. | .evaluate _ | .giveBack _ | .rethrow | .blank => []

/-- The values that statements one after the other assign to a member of an object. -/
@[simp]
def assignedIn (object member : String) : List Stmt → List Expr
  | [] => []
  | stmt :: body => stmt.assigned object member ++ assignedIn object member body

/-- The values that a handler assigns to a member of an object. -/
@[simp]
def handlerAssigned (object member : String) : Option (CatchClause (List Stmt)) → List Expr
  | none => []
  | some ⟨_, _, handler⟩ => assignedIn object member handler

/-- The values that a cleanup assigns to a member of an object. -/
@[simp]
def cleanupAssigned (object member : String) : Option (List Stmt) → List Expr
  | none => []
  | some cleanup => assignedIn object member cleanup

end

/-- What is assigned in statements is assigned in the first of them, then in the others. -/
@[simp] theorem assignedIn_append (object member : String) (first second : List Stmt) :
    assignedIn object member (first ++ second) =
      assignedIn object member first ++ assignedIn object member second := by
  induction first with
  | nil => rfl
  | cons stmt first inductionHypothesis => simp [inductionHypothesis]

/-- Statements that assign nothing to a member one by one assign nothing to it together. -/
theorem assignedIn_eq_nil {object member : String} {body : List Stmt}
    (each : ∀ stmt ∈ body, stmt.assigned object member = []) :
    assignedIn object member body = [] := by
  induction body with
  | nil => rfl
  | cons stmt body inductionHypothesis =>
    have rest := inductionHypothesis fun other inside => each other (List.mem_cons_of_mem _ inside)
    rw [assignedIn, each stmt List.mem_cons_self, rest, List.append_nil]

variable {Value Failure : Type} {env : Environment Value Failure} {handling : Option Failure}
variable {history : List (Event Value Failure)}

/-- The body of a guard and what is evaluated behind it, which stands in the handler or in the
cleanup. -/
theorem exists_trace_guarded (env : Environment Value Failure) (handling : Option Failure)
    (body : List Stmt) (handler : Option (CatchClause (List Stmt)))
    (cleanup : Option (List Stmt)) (history : List (Event Value Failure)) :
    ∃ later, ((Stmt.guarded body handler cleanup).run env handling history).trace =
        (runBody env handling body history).trace ++ later ∧
      ∀ event ∈ later, event.expr ∈ handlerExpressions handler ++ cleanupExpressions cleanup := by
  have handled : ∃ later, ((runBody env handling body history).handledBy fun failure =>
        runHandler env handler failure
          (history ++ (runBody env handling body history).trace)).trace =
        (runBody env handling body history).trace ++ later ∧
      ∀ event ∈ later, event.expr ∈ handlerExpressions handler := by
    unfold Run.handledBy
    split
    · rename_i failure _
      split
      · rename_i run taken
        exact ⟨_, rfl, runHandler_evaluates env handler failure _ (fun _ inside => inside) taken⟩
      · exact ⟨[], by simp, by simp⟩
    · exact ⟨[], by simp, by simp⟩
  obtain ⟨reports, trace, inHandler⟩ := handled
  have cleaned (run last : Run Value Failure) :
      (run.cleanedUpBy last).trace = run.trace ++ last.trace := by
    unfold Run.cleanedUpBy
    split <;> rfl
  rw [Stmt.run, cleaned, trace, List.append_assoc]
  refine ⟨_, rfl, fun event happened => List.mem_append.mpr ?_⟩
  rcases List.mem_append.mp happened with early | late
  · exact Or.inl (inHandler event early)
  · exact Or.inr (runCleanup_evaluates env handling cleanup _ (fun _ inside => inside) event late)

/-- An assignment evaluates what is assigned and then its target, and comes to its end, or it breaks
off in one of the two. Only the first way leaves a trace that counts as an assignment. -/
theorem run_assign_cases (env : Environment Value Failure) (handling : Option Failure)
    (target value : Expr) (history : List (Event Value Failure)) :
    (∃ made placed, (Stmt.assign target value).run env handling history =
        ⟨[⟨value, .ok made⟩, ⟨target, .ok placed⟩], .completed⟩) ∨
      ((Stmt.assign target value).run env handling history).outcome ≠ .completed := by
  simp only [Stmt.run, Environment.evaluate]
  cases env.answer history value with
  | error failure => exact Or.inr (by simp)
  | ok made =>
    cases placed : env.answer (history ++ [⟨value, .ok made⟩]) target with
    | error failure => exact Or.inr (by simp [placed, Run.behind])
    | ok result => exact Or.inl ⟨made, result, by simp [placed, Run.behind, Run.empty]⟩

/-! ## Assigned before -/

/-- Whenever a run behind a history evaluates an expression of a kind, it has run some statements
to their end before, and right behind them has assigned a value to a target. It assigns nothing to
that target at any other time. -/
def Run.AssignsBefore (env : Environment Value Failure) (history : List (Event Value Failure))
    (opening : List Stmt) (target value : Expr) (kind : Expr → Prop)
    (run : Run Value Failure) : Prop :=
  ∀ before event after, run.trace = before ++ event :: after → kind event.expr →
    ∃ earlier made placed between,
      (runBody env none opening (history ++ earlier)).outcome = .completed ∧
      before = earlier ++ (runBody env none opening (history ++ earlier)).trace ++
        ⟨value, .ok made⟩ :: ⟨target, .ok placed⟩ :: between ∧
      ∀ other ∈ earlier ++ (runBody env none opening (history ++ earlier)).trace ++ between ++
        event :: after, other.expr ≠ target

namespace Run.AssignsBefore

variable {opening : List Stmt} {target value : Expr} {kind : Expr → Prop}

/-- A run without an expression of the kind has nothing to do. -/
theorem of_absent {run : Run Value Failure} (absent : run.Evaluates fun expr => ¬ kind expr) :
    run.AssignsBefore env history opening target value kind := by
  intro before event after trace isKind
  exact absurd isKind (absent event (by simp [trace]))

/-- What is evaluated in front of a part of a run and behind that part does not matter, as long as
it is neither of the kind nor the target. -/
theorem of_part {whole part : Run Value Failure} (front back : List (Event Value Failure))
    (split : whole.trace = front ++ part.trace ++ back)
    (frontQuiet : ∀ event ∈ front, ¬ kind event.expr ∧ event.expr ≠ target)
    (backQuiet : ∀ event ∈ back, ¬ kind event.expr ∧ event.expr ≠ target)
    (assigns : part.AssignsBefore env (history ++ front) opening target value kind) :
    whole.AssignsBefore env history opening target value kind := by
  intro before event after trace isKind
  rw [split, List.append_assoc] at trace
  obtain ⟨middle, rfl, rest⟩ := exists_behind trace fun early => (frontQuiet event early).1 isKind
  obtain ⟨last, inside, rfl⟩ := exists_before rest fun late => (backQuiet event late).1 isKind
  obtain ⟨earlier, made, placed, between, completed, rfl, others⟩ :=
    assigns middle event last inside isKind
  refine ⟨front ++ earlier, made, placed, between, ?_, ?_, ?_⟩
  · rwa [← List.append_assoc]
  · simp [List.append_assoc]
  · intro other member
    have parts : front ++ earlier ++ (runBody env none opening (history ++ front ++ earlier)).trace
          ++ between ++ event :: (last ++ back) =
        front ++ ((earlier ++ (runBody env none opening (history ++ front ++ earlier)).trace ++
          between ++ event :: last) ++ back) := by
      simp [List.append_assoc]
    rw [← List.append_assoc, parts] at member
    rcases List.mem_append.mp member with early | behind
    · exact (frontQuiet other early).2
    · rcases List.mem_append.mp behind with inside | late
      · exact others other inside
      · exact (backQuiet other late).2

/-- An evaluation may come first. -/
theorem evaluate {expr : Expr} {next : Value → List (Event Value Failure) → Run Value Failure}
    (quiet : ¬ kind expr ∧ expr ≠ target)
    (rest : ∀ result after, (next result after).AssignsBefore env after opening target value
      kind) :
    (env.evaluate history expr next).AssignsBefore env history opening target value kind := by
  unfold Environment.evaluate
  split
  · rename_i result _
    refine of_part [⟨expr, .ok result⟩] [] ?_ ?_ (by simp) (rest result _)
    · simp [Run.behind]
    · simpa using quiet
  · exact of_absent (by simpa [Run.Evaluates] using quiet.1)

/-- Other statements may come first. -/
theorem append {first second : List Stmt}
    (quiet : ∀ expr ∈ expressionsOf first, ¬ kind expr ∧ expr ≠ target)
    (rest : ∀ after, (runBody env none second after).AssignsBefore env after opening target value
      kind) :
    (runBody env none (first ++ second) history).AssignsBefore env history opening target value
      kind := by
  have early := runBody_evaluates env none first history quiet
  rw [runBody_append]
  by_cases completed : (runBody env none first history).outcome = .completed
  · rw [Run.andThen_of_completed _ _ completed]
    exact of_part _ [] (by simp) early (by simp) (rest _)
  · rw [Run.andThen_of_left _ _ completed]
    exact of_absent fun event happened => (early event happened).1

/-- Other statements may come last. -/
theorem cons {stmt : Stmt} {body : List Stmt}
    (quiet : ∀ expr ∈ expressionsOf body, ¬ kind expr ∧ expr ≠ target)
    (first : (stmt.run env none history).AssignsBefore env history opening target value kind) :
    (runBody env none (stmt :: body) history).AssignsBefore env history opening target value
      kind := by
  obtain ⟨later, trace, inside⟩ := exists_trace_cons env none stmt body history
  refine of_part [] later trace (by simp) ?_ (by simpa using first)
  exact fun event happened => quiet event.expr (inside event happened)

/-- The assignment may be in the body of a guard. -/
theorem guarded {body : List Stmt} {handler : Option (CatchClause (List Stmt))}
    {cleanup : Option (List Stmt)}
    (quiet : ∀ expr ∈ handlerExpressions handler ++ cleanupExpressions cleanup,
      ¬ kind expr ∧ expr ≠ target)
    (inner : (runBody env none body history).AssignsBefore env history opening target value
      kind) :
    ((Stmt.guarded body handler cleanup).run env none history).AssignsBefore
      env history opening target value kind := by
  obtain ⟨later, trace, inside⟩ := exists_trace_guarded env none body handler cleanup history
  refine of_part [] later trace (by simp) ?_ (by simpa using inner)
  exact fun event happened => quiet event.expr (inside event happened)

/-- Statements, an assignment and others behind it assign before whatever is among the others. -/
theorem assigned (openingQuiet : ∀ expr ∈ expressionsOf opening, ¬ kind expr ∧ expr ≠ target)
    (valueQuiet : ¬ kind value ∧ value ≠ target) (targetOther : ¬ kind target) {rest : List Stmt}
    (restOther : ∀ expr ∈ expressionsOf rest, expr ≠ target) :
    (runBody env none (opening ++ .assign target value :: rest) history).AssignsBefore env history
      opening target value kind := by
  have early := runBody_evaluates env none opening history openingQuiet
  have placing (after : List (Event Value Failure)) :
      ((Stmt.assign target value).run env none after).Evaluates fun expr => ¬ kind expr :=
    Stmt.run_evaluates env none _ after (by simp [valueQuiet.1, targetOther])
  -- Where the opening or the assignment breaks off, nothing of the kind has been evaluated.
  rw [runBody_append]
  by_cases completed : (runBody env none opening history).outcome = .completed
  · rw [Run.andThen_of_completed _ _ completed, runBody]
    rcases run_assign_cases env none target value
      (history ++ (runBody env none opening history).trace) with ⟨made, placed, done⟩ | left
    · rw [done, Run.andThen_of_completed _ _ rfl]
      have late := runBody_evaluates env none rest (history ++ (runBody env none opening
        history).trace ++ [⟨value, .ok made⟩, ⟨target, .ok placed⟩]) restOther
      intro before event after trace isKind
      obtain ⟨middle, rfl, behind⟩ := exists_behind trace fun before =>
        (early event before).1 isKind
      obtain ⟨between, rfl, last⟩ := exists_behind behind fun placing => by
        simp only [List.mem_cons, List.not_mem_nil, or_false] at placing
        rcases placing with rfl | rfl
        · exact valueQuiet.1 isKind
        · exact targetOther isKind
      refine ⟨[], made, placed, between, by simpa using completed, by simp, ?_⟩
      intro other member
      simp only [List.nil_append, List.append_nil, List.append_assoc] at member
      rcases List.mem_append.mp member with inOpening | behind
      · exact (early other inOpening).2
      · exact late other (last ▸ behind)
    · rw [Run.andThen_of_left _ _ left]
      apply of_absent
      intro event happened
      rcases List.mem_append.mp happened with before | assigning
      · exact (early event before).1
      · exact placing _ event assigning
  · rw [Run.andThen_of_left _ _ completed]
    exact of_absent fun event happened => (early event happened).1

end Run.AssignsBefore

/-! ## Where nothing fails -/

/-- An environment in which every evaluation gives a value and no loop breaks off. -/
structure Unfailing (env : Environment Value Failure) : Prop where
  answers : ∀ history expr, ∃ value, env.answer history expr = .ok value
  loops : ∀ history value, (env.elements history value).2 = none

namespace Unfailing

/-- Where nothing fails, an evaluation comes to its end when what is done with the value does. -/
theorem evaluate_completes (unfailing : Unfailing env) (history : List (Event Value Failure))
    (expr : Expr) {next : Value → List (Event Value Failure) → Run Value Failure}
    (rest : ∀ value after, (next value after).outcome = .completed) :
    (env.evaluate history expr next).outcome = .completed := by
  obtain ⟨value, answered⟩ := unfailing.answers history expr
  simp only [Environment.evaluate, answered]
  exact rest value _

/-- Two runs one after the other come to their end when both do, the second one after any events. -/
theorem andThen_completes (history : List (Event Value Failure)) {first : Run Value Failure}
    {next : List (Event Value Failure) → Run Value Failure} (start : first.outcome = .completed)
    (rest : ∀ after, (next after).outcome = .completed) :
    (Run.andThen history first next).outcome = .completed := by
  rw [Run.andThen_of_completed _ _ start]
  exact rest _

/-- Rounds that reach their end make a loop that does. -/
theorem repeated_completes {round : List (Event Value Failure) → Run Value Failure}
    (each : ∀ after, (round after).outcome = .completed) (count : Nat)
    (history : List (Event Value Failure)) :
    (Run.repeated round count history).outcome = .completed := by
  induction count generalizing history with
  | zero => rfl
  | succ count inductionHypothesis => exact andThen_completes _ (each history) inductionHypothesis

mutual

/-- A statement that leaves nothing reaches its end where nothing fails. The
induction is on the statement. -/
theorem stmt_completes (unfailing : Unfailing env) (stmt : Stmt)
    (history : List (Event Value Failure)) (returnless : stmt.returnValues = [])
    (rethrowless : stmt.rethrowsHandled = true) :
    (stmt.run env none history).outcome = .completed := by
  cases stmt with
  | declare _ init => exact unfailing.evaluate_completes history init fun _ _ => rfl
  | assign target value =>
    exact unfailing.evaluate_completes history value fun _ after =>
      unfailing.evaluate_completes after target fun _ _ => rfl
  | evaluate value => exact unfailing.evaluate_completes history value fun _ _ => rfl
  | giveBack value => simp at returnless
  | rethrow => simp at rethrowless
  | whenTrue condition body =>
    apply unfailing.evaluate_completes history condition
    intro verdict after
    split
    · exact body_completes unfailing body after returnless rethrowless
    · rfl
  | withResource _ init body =>
    exact unfailing.evaluate_completes history init fun _ after =>
      body_completes unfailing body after returnless rethrowless
  | forEach _ items body =>
    apply unfailing.evaluate_completes history items
    intro value after
    have round (later : List (Event Value Failure)) :=
      body_completes unfailing body later returnless rethrowless
    refine andThen_completes after (repeated_completes round _ after) fun _ => ?_
    rw [unfailing.loops]
    rfl
  | block body => exact body_completes unfailing body history returnless rethrowless
  | guarded body handler cleanup =>
    obtain ⟨inTry, inCleanup⟩ := List.append_eq_nil_iff.mp returnless
    obtain ⟨noReturn, _⟩ := List.append_eq_nil_iff.mp inTry
    obtain ⟨noThrow, noLateThrow⟩ := Bool.and_eq_true_iff.mp rethrowless
    -- Nothing is left for the handler to take.
    have tried := body_completes unfailing body history noReturn noThrow
    have handled (take : Failure → Option (Run Value Failure)) :
        (runBody env none body history).handledBy take = runBody env none body history := by
      rw [Run.handledBy, tried]
    rw [Stmt.run, handled]
    exact Run.cleanedUpBy_completes tried
      (cleanup_completes unfailing cleanup _ inCleanup noLateThrow)
  | blank => rfl

/-- A body that leaves nothing reaches its end where nothing fails: it has no return in it, and no
exception is thrown again in it but by a handler, which is not taken. -/
theorem body_completes (unfailing : Unfailing env) (body : List Stmt)
    (history : List (Event Value Failure)) (returnless : returnValuesOf body = [])
    (rethrowless : bodyRethrowsHandled body = true) :
    (runBody env none body history).outcome = .completed := by
  cases body with
  | nil => rfl
  | cons stmt body =>
    obtain ⟨noReturn, noReturns⟩ := List.append_eq_nil_iff.mp returnless
    obtain ⟨noThrow, noThrows⟩ := Bool.and_eq_true_iff.mp rethrowless
    refine andThen_completes history ?_ fun after => ?_
    · exact stmt_completes unfailing stmt history noReturn noThrow
    · exact body_completes unfailing body after noReturns noThrows

/-- A cleanup that leaves nothing, or none at all, reaches its end where nothing fails. -/
theorem cleanup_completes (unfailing : Unfailing env) (cleanup : Option (List Stmt))
    (history : List (Event Value Failure)) (returnless : cleanupReturnValues cleanup = [])
    (rethrowless : cleanupRethrowsHandled cleanup = true) :
    (runCleanup env none cleanup history).outcome = .completed := by
  cases cleanup with
  | none => rfl
  | some cleanup => exact body_completes unfailing cleanup history returnless rethrowless

end

end Unfailing

/-- Plain statements reach their end where nothing fails. -/
theorem PlainBody.completes (unfailing : Unfailing env) {body : List Stmt} (plain : PlainBody body)
    (history : List (Event Value Failure)) :
    (runBody env none body history).outcome = .completed :=
  unfailing.body_completes body history plain.returnless plain.rethrowless

/-- A run evaluates some expression of a kind. -/
def Run.Reaches (kind : Expr → Prop) (run : Run Value Failure) : Prop :=
  ∃ event ∈ run.trace, kind event.expr

namespace Run.Reaches

variable {kind : Expr → Prop}

/-- An evaluation that gives a value may come first. -/
theorem evaluate (unfailing : Unfailing env) {expr : Expr}
    {next : Value → List (Event Value Failure) → Run Value Failure}
    (rest : ∀ value after, (next value after).Reaches kind) :
    (env.evaluate history expr next).Reaches kind := by
  obtain ⟨value, answered⟩ := unfailing.answers history expr
  obtain ⟨event, happened, isKind⟩ := rest value (history ++ [⟨expr, .ok value⟩])
  simp only [Environment.evaluate, answered]
  exact ⟨event, List.mem_cons_of_mem _ happened, isKind⟩

/-- Plain statements may come first. -/
theorem append (unfailing : Unfailing env) {first second : List Stmt} (plain : PlainBody first)
    (rest : ∀ after, (runBody env none second after).Reaches kind) :
    (runBody env none (first ++ second) history).Reaches kind := by
  rw [runBody_append, Run.andThen_of_completed _ _ (plain.completes unfailing history)]
  obtain ⟨event, happened, isKind⟩ := rest (history ++ (runBody env none first history).trace)
  exact ⟨event, List.mem_append_right _ happened, isKind⟩

/-- Any statements may come last. -/
theorem cons {stmt : Stmt} (body : List Stmt) (first : (stmt.run env none history).Reaches kind) :
    (runBody env none (stmt :: body) history).Reaches kind := by
  obtain ⟨event, happened, isKind⟩ := first
  obtain ⟨later, trace, _⟩ := exists_trace_cons env none stmt body history
  exact ⟨event, trace ▸ List.mem_append_left later happened, isKind⟩

/-- The body may be that of a guard. -/
theorem guarded {body : List Stmt} (handler : Option (CatchClause (List Stmt)))
    (cleanup : Option (List Stmt)) (inner : (runBody env none body history).Reaches kind) :
    ((Stmt.guarded body handler cleanup).run env none history).Reaches kind := by
  obtain ⟨event, happened, isKind⟩ := inner
  obtain ⟨later, trace, _⟩ := exists_trace_guarded env none body handler cleanup history
  exact ⟨event, trace ▸ List.mem_append_left later happened, isKind⟩

end Run.Reaches

end TypedClients.CSharp
