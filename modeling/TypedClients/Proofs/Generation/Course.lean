import TypedClients.Proofs.Generation.DefiniteReturn
import TypedClients.Proofs.Generation.Request

/-!
# The course of a generated method

What a method evaluates from its `try` on: what the body of the `try` does, a report to the error
hook if an exception came out of it, the watch of a timed method, and the fallback if the method
comes to its end and has a value to give back.

All evaluations may fail and may give any value, apart from the calls of the hooks and what is
done with the watch, which give some value.

`Course` tells what the whole run is from the run of the `try`, for each outcome of that, and
`exists_course` shows that every run takes such a course. The clauses of the error policy are read
off it.
-/

namespace TypedClients.Generation

open CSharp

variable {Value Failure : Type}

/-- An environment in which the hooks and the watch do not fail. -/
structure Reliable (env : Environment Value Failure) : Prop where
  hook : ∀ history name arguments, name ∈ [errorHook, slowCallHook] →
    ∃ value, env.answer history (.callName name arguments) = .ok value
  stop : ∀ history, ∃ value, env.answer history watchStop = .ok value
  check : ∀ history limit, ∃ value, env.answer history (isSlow limit) = .ok value

/-- The expression that tells the error hook of an exception. -/
def errorReport (client : Client) (method : Method) : Expr :=
  .callName errorHook [reportedName client method, .name "url", .name "e"]

/-- The expression that tells the other hook of a slow call. -/
def slowReport (client : Client) (method : Method) : Expr :=
  .callName slowCallHook [reportedName client method, .name "url", elapsed]

/-- To report an error is one call by name. -/
@[simp] theorem calls_errorReport (client : Client) (method : Method) :
    (errorReport client method).calls = [errorCall client method] := by
  simp [errorReport, Expr.callName, errorCall, reportedName, Expr.text]

/-- To report a slow call is one call by name. -/
@[simp] theorem calls_slowReport (client : Client) (method : Method) :
    (slowReport client method).calls = [slowCall client method] := by
  simp [slowReport, Expr.callName, slowCall, reportedName, Expr.text, elapsed]

/-- The watch is stopped without a call by name. -/
@[simp] theorem calls_watchStop : watchStop.calls = [] := by
  simp [watchStop, Expr.callMember]

/-- The time is compared with its limit without a call by name. -/
@[simp] theorem calls_isSlow (limit : Nat) : (isSlow limit).calls = [] := by
  simp [isSlow, elapsed]

/-- What the handler evaluates, by the way in which the body of the `try` ended: the call of the
error hook when an exception came out of it. -/
def Reported (client : Client) (method : Method) (reports : List (Event Value Failure)) :
    Outcome Value Failure → Prop
  | .threw _ => ∃ value, reports = [⟨errorReport client method, .ok value⟩]
  | .completed | .returned _ _ => reports = []

/-- What the cleanup evaluates: nothing without a threshold. -/
inductive Timed (env : Environment Value Failure) (client : Client) (method : Method) :
    List (Event Value Failure) → Prop where
  | untimed (none : method.slowCallThreshold = 0) : Timed env client method []
  | fast {stopped verdict : Value} (timed : 0 < method.slowCallThreshold)
      (inTime : env.isTrue verdict = false) : Timed env client method
        [⟨watchStop, .ok stopped⟩, ⟨isSlow method.slowCallThreshold, .ok verdict⟩]
  | slow {stopped verdict reported : Value} (timed : 0 < method.slowCallThreshold)
      (late : env.isTrue verdict = true) : Timed env client method
        [⟨watchStop, .ok stopped⟩, ⟨isSlow method.slowCallThreshold, .ok verdict⟩,
          ⟨slowReport client method, .ok reported⟩]

/-- The way in which a `try` ends, by the way in which its body did. -/
def settled (method : Method) : Outcome Value Failure → Outcome Value Failure
  | .completed => .completed
  | .returned source value => .returned source value
  | .threw failure => if method.throwsOnFailure then .threw failure else .completed

/-- A `try` comes to its end when its body did, or when an exception of it is not thrown again. -/
theorem settled_completed {method : Method} {outcome : Outcome Value Failure}
    (completed : settled method outcome = .completed) :
    outcome = .completed ∨ method.throwsOnFailure = false := by
  cases outcome with
  | completed => exact Or.inl rfl
  | returned source value => cases completed
  | threw failure =>
    cases throws : method.throwsOnFailure with
    | false => exact Or.inr rfl
    | true => simp [settled, throws] at completed

/-- A method whose `try` comes to its end and that has nothing behind it has no value. With one, its
response would have been given back inside the `try`, and a failure would have been thrown again. -/
theorem valueless_of_settled {method : Method} {shape : ReturnShape}
    {outcome : Outcome Value Failure} (falls : settled method outcome = .completed)
    (through : outcome = .completed →
      (resultKind? shape).all ResultKind.mayGiveNothing = true)
    (absent : shape.value = none ∨
      ((resultKind? shape).all ResultKind.mayGiveNothing || !method.throwsOnFailure) = false) :
    shape.value = none := by
  rcases absent with valueless | stuck
  · exact valueless
  · obtain ⟨stops, throws⟩ := Bool.or_eq_false_iff.mp stuck
    rcases settled_completed falls with completed | lenient
    · rw [through completed] at stops
      cases stops
    · rw [lenient] at throws
      cases throws

section Run

variable {env : Environment Value Failure}

/-- The handler tells the error hook, and then throws again or comes to its end, as the method is
set. The hook is all that it evaluates, since the environment is reliable and a hook does not throw.
-/
theorem exceptionHandler_run (reliable : Reliable env) (client : Client) (method : Method)
    (failure : Failure) (history : List (Event Value Failure)) :
    ∃ value, runBody env (some failure) (exceptionHandler client method) history =
      ⟨[⟨errorReport client method, .ok value⟩], settled method (.threw failure)⟩ := by
  obtain ⟨value, answered⟩ := reliable.hook history errorHook
    [reportedName client method, .name "url", .name "e"] List.mem_cons_self
  have told := run_evaluate_of_ok (some failure) answered
  refine ⟨value, ?_⟩
  rw [exceptionHandler, runBody, told, Run.andThen_of_completed _ _ rfl]
  cases throws : method.throwsOnFailure <;>
    simp [runBody, Stmt.run, Run.empty, Run.andThen, settled, throws, errorReport]

/-- The check for slow calls stops and looks at the watch, and comes to its end. It reports when the
limit is passed, and no report of it can fail. -/
theorem slowCallCheck_run (reliable : Reliable env) (client : Client) {method : Method}
    (timed : 0 < method.slowCallThreshold) (handling : Option Failure)
    (history : List (Event Value Failure)) :
    ∃ timing, Timed env client method timing ∧
      runBody env handling (slowCallCheck client method) history = ⟨timing, .completed⟩ := by
  obtain ⟨stopped, stop⟩ := reliable.stop history
  obtain ⟨verdict, check⟩ :=
    reliable.check (history ++ [⟨watchStop, .ok stopped⟩]) method.slowCallThreshold
  have first := run_evaluate_of_ok handling stop
  have second := run_whenTrue_of_ok handling [.evaluate (slowReport client method)] check
  change ∃ timing, Timed env client method timing ∧ runBody env handling
    [.evaluate watchStop,
      .whenTrue (isSlow method.slowCallThreshold) [.evaluate (slowReport client method)]]
    history = ⟨timing, .completed⟩
  rw [runBody, first, Run.andThen_of_completed _ _ rfl, runBody_singleton, second]
  by_cases late : env.isTrue verdict = true
  · obtain ⟨reported, report⟩ := reliable.hook
      (history ++ [⟨watchStop, .ok stopped⟩] ++
        [⟨isSlow method.slowCallThreshold, .ok verdict⟩])
      slowCallHook [reportedName client method, .name "url", elapsed] (by simp)
    have third := run_evaluate_of_ok handling report
    rw [if_pos late, runBody_singleton, slowReport, third]
    exact ⟨_, .slow timed late, rfl⟩
  · rw [if_neg late]
    exact ⟨_, .fast timed (Bool.eq_false_iff.mpr late), rfl⟩

/-- The cleanup stops and looks at the watch of a timed method, and comes to its end. -/
theorem slowCallCleanup_run (reliable : Reliable env) (client : Client) (method : Method)
    (handling : Option Failure) (history : List (Event Value Failure)) :
    ∃ timing, Timed env client method timing ∧
      runCleanup env handling (slowCallCleanup client method) history = ⟨timing, .completed⟩ := by
  rcases slowCallCleanup_cases client method with ⟨untimed, absent⟩ | ⟨timed, present⟩
  · rw [absent]
    exact ⟨[], .untimed untimed, rfl⟩
  · rw [present, runCleanup]
    exact slowCallCheck_run reliable client timed handling history

/-- A body and the handler of its exceptions: the reports are behind what the body evaluated, there
are none unless it threw, and the outcome is the settled one. -/
theorem handledBy_reports (reliable : Reliable env) (client : Client) (method : Method)
    (tried : Run Value Failure) (history : List (Event Value Failure)) :
    ∃ reports, Reported client method reports tried.outcome ∧
      (tried.handledBy fun failure => some
          (runBody env (some failure) (exceptionHandler client method) history)) =
        ⟨tried.trace ++ reports, settled method tried.outcome⟩ := by
  obtain ⟨trace, outcome⟩ := tried
  cases outcome with
  | threw failure =>
    obtain ⟨value, handled⟩ := exceptionHandler_run reliable client method failure history
    refine ⟨[⟨errorReport client method, .ok value⟩], ⟨value, rfl⟩, ?_⟩
    simp only [Run.handledBy, handled]
  | completed => exact ⟨[], rfl, by simp [Run.handledBy, settled]⟩
  | returned source value => exact ⟨[], rfl, by simp [Run.handledBy, settled]⟩

/-- The `try` of a method ends as its body did, apart from exceptions that are not thrown again.
Behind what the body evaluated are the reports and what the cleanup evaluates. -/
theorem guarded_run (reliable : Reliable env) (client : Client) (method : Method)
    (body : List Stmt) (history : List (Event Value Failure)) :
    ∃ reports timing, Reported client method reports (runBody env none body history).outcome ∧
      Timed env client method timing ∧
      (Stmt.guarded body (some ⟨"System.Exception", "e", exceptionHandler client method⟩)
          (slowCallCleanup client method)).run env none history =
        ⟨(runBody env none body history).trace ++ reports ++ timing,
          settled method (runBody env none body history).outcome⟩ := by
  obtain ⟨reports, reported, handled⟩ := handledBy_reports reliable client method
    (runBody env none body history) (history ++ (runBody env none body history).trace)
  obtain ⟨timing, timed, cleaned⟩ := slowCallCleanup_run reliable client method none
    (history ++ ((runBody env none body history).trace ++ reports))
  refine ⟨reports, timing, reported, timed, ?_⟩
  simp only [Stmt.run, runHandler, Environment.catches, beq_self_eq_true, Bool.true_or, if_true,
    handled, cleaned, Run.cleanedUpBy]

end Run

/-- How a method goes on with the body of its `try`: the reports, what the cleanup evaluates and
the fallback at the end, where there is one. -/
structure Course (env : Environment Value Failure) (client : Client) (method : Method)
    (shape : ReturnShape) (tried whole : Run Value Failure)
    (reports timing ending : List (Event Value Failure)) : Prop where
  trace : whole.trace = tried.trace ++ reports ++ timing ++ ending
  reported : Reported client method reports tried.outcome
  timed : Timed env client method timing
  /-- A method that does not come to its end leaves with the outcome of the `try`. -/
  left : settled method tried.outcome ≠ .completed →
    ending = [] ∧ whole.outcome = settled method tried.outcome
  /-- A method without a value comes to its end behind the `try`. -/
  bare : settled method tried.outcome = .completed → shape.value = none →
    ending = [] ∧ whole.outcome = .completed
  /-- A method with a value gives the fallback back there. -/
  filled : settled method tried.outcome = .completed → ∀ type, shape.value = some type →
    ∃ answer, ending = [⟨(ResultKind.ofType type).fallback, answer⟩] ∧
      whole.outcome = .ofAnswer (ResultKind.ofType type).fallback answer

/-- A request runs to its end only when its method has no value, or not always one. -/
theorem request_completed {env : Environment Value Failure} {client : Client} {method : Method}
    {endpoint : Endpoint} {names : StubNames} {history : List (Event Value Failure)}
    (completed : (runBody env none [requestStmt client method endpoint names] history).outcome =
      .completed) : (resultKind? endpoint.returnShape).all ResultKind.mayGiveNothing = true := by
  obtain ⟨requestEnd, _, _, rethrows⟩ := requestStmt_flows client method endpoint names
  rw [runBody_singleton] at completed
  have ends := Stmt.endReachable_of_completed env none _ history (fun _ => rethrows) completed
  exact requestEnd ▸ ends

/-- The fallback at the end of a method is evaluated and leaves the method. -/
theorem run_fallback (env : Environment Value Failure) (value : Expr)
    (history : List (Event Value Failure)) :
    runBody env none [.blank, .giveBack value] history =
      ⟨[⟨value, env.answer history value⟩], .ofAnswer value (env.answer history value)⟩ := by
  rw [runBody, Stmt.run, Run.empty_andThen, runBody_singleton, run_giveBack]

/-- Behind the `try` a method takes its course by its shape. Of the body of the request only the
outcome decides, and nothing has to be known of what it evaluates. -/
theorem exists_course {env : Environment Value Failure} (reliable : Reliable env)
    (client : Client) (method : Method) (endpoint : Endpoint) (names : StubNames)
    (history : List (Event Value Failure)) :
    ∃ reports timing ending, Course env client method endpoint.returnShape
      (runBody env none [requestStmt client method endpoint names] history)
      (runBody env none (.guarded [requestStmt client method endpoint names]
        (some ⟨"System.Exception", "e", exceptionHandler client method⟩)
        (slowCallCleanup client method) :: finalReturn method endpoint.returnShape) history)
      reports timing ending := by
  obtain ⟨reports, timing, reported, timed, guarded⟩ := guarded_run reliable client method
    [requestStmt client method endpoint names] history
  have fallsThrough (completed : (runBody env none
      [requestStmt client method endpoint names] history).outcome = .completed) :=
    request_completed completed
  -- From here on only the outcome of the body decides.
  conv in runBody env none (_ :: finalReturn _ _) history => rw [runBody, guarded]
  generalize runBody env none [requestStmt client method endpoint names] history = tried at *
  by_cases falls : settled method tried.outcome = .completed
  · rw [Run.andThen_of_completed _ _ falls]
    rcases finalReturn_flows method endpoint.returnShape with
      ⟨absent, valueless⟩ | ⟨type, typed, present, _⟩
    · have bare := valueless_of_settled falls fallsThrough valueless
      refine ⟨reports, timing, [], ?_⟩
      rw [absent]
      refine ⟨by simp [runBody, Run.empty], reported, timed, fun left => absurd falls left,
        fun _ _ => ⟨rfl, rfl⟩, fun _ type typed => ?_⟩
      cases bare.symm.trans typed
    · rw [present, run_fallback]
      refine ⟨reports, timing, _, rfl, reported, timed, fun left => absurd falls left,
        fun _ bare => ?_, fun _ found same => ?_⟩
      · cases bare.symm.trans typed
      · obtain rfl := Option.some.inj (same.symm.trans typed)
        exact ⟨_, rfl, rfl⟩
  · refine ⟨reports, timing, [], ?_⟩
    rw [Run.andThen_of_left _ _ falls]
    exact ⟨by simp, reported, timed, fun _ => ⟨rfl, rfl⟩, fun completed => absurd completed falls,
      fun completed => absurd completed falls⟩

end TypedClients.Generation
