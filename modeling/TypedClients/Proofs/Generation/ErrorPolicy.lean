import TypedClients.Proofs.Generation.Course

/-!
# Error policy of generated methods

Whatever goes wrong while a request is made, the error hook is told once, and then the exception
leaves the method or the fallback takes its place, as the method was declared. A request that is
answered has its status looked at next, and a status that reports a failure is no exception where
the fallback can answer it. However a timed method leaves its `try`, the watch is stopped and looked
at once.

The policy is stated over the run of the body of the `try` and the run of the method from its `try`
on. What the two have to do with each other is a `Course`, whatever the body does; that the body
itself sends the request, asks for the status and leaves hooks and watch alone is what is known of
requests. The clauses are brought together in `Course.policy`, and each takes no more of the two
than it needs. Evaluations may fail and give any value, apart from the hooks and the watch.
-/

namespace TypedClients.Generation

open CSharp

variable {Value Failure : Type}

section Counts

variable {env : Environment Value Failure} {client : Client} {method : Method}
variable {reports timing : List (Event Value Failure)} {outcome : Outcome Value Failure}

/-- To report an error leaves the watch alone. -/
theorem untimed_errorReport (client : Client) (method : Method) :
    Untimed (errorReport client method) := by
  simp [Untimed, errorReport, watchStop, isSlow, Expr.callName, Expr.callMember]

/-- To report a slow call leaves the watch alone: it is read before, for the comparison with the
limit. -/
theorem untimed_slowReport (client : Client) (method : Method) :
    Untimed (slowReport client method) := by
  simp [Untimed, slowReport, watchStop, isSlow, Expr.callName, Expr.callMember]

/-- The reports leave the watch alone and do not call the hook for slow calls, as all that they call
is the hook for errors. -/
theorem Reported.apart (reported : Reported client method reports outcome) :
    (∀ event ∈ reports, Untimed event.expr) ∧ timesCalled slowCallHook reports = 0 := by
  have different : errorHook ≠ slowCallHook := by simp [errorHook, slowCallHook]
  cases outcome with
  | threw failure =>
    obtain ⟨value, rfl⟩ := reported
    refine ⟨fun event member => ?_, by simp [errorCall, different]⟩
    obtain rfl := List.mem_singleton.mp member
    exact untimed_errorReport client method
  | completed | returned =>
    subst reported
    exact ⟨by simp, rfl⟩

/-- What the cleanup evaluates does not call the error hook. -/
theorem Timed.unreported (timed : Timed env client method timing) :
    timesCalled errorHook timing = 0 := by
  have different : slowCallHook ≠ errorHook := by simp [errorHook, slowCallHook]
  cases timed with
  | untimed => rfl
  | fast => simp
  | slow => simp [slowCall, different]

/-- With a threshold the cleanup stops the watch and looks at it, and reports a slow call: once if
the watch is over the threshold, and else not at all. -/
theorem Timed.parts (timed : Timed env client method timing)
    (threshold : 0 < method.slowCallThreshold) : ∃ stopped verdict report,
      timing = [⟨watchStop, .ok stopped⟩, ⟨isSlow method.slowCallThreshold, .ok verdict⟩] ++
        report ∧ (∀ event ∈ report, Untimed event.expr) ∧
      timesCalled slowCallHook timing = if env.isTrue verdict then 1 else 0 := by
  cases timed with
  | untimed none => omega
  | @fast stopped verdict _ inTime => exact ⟨stopped, verdict, [], rfl, by simp, by simp [inTime]⟩
  | @slow stopped verdict reported _ late =>
    refine ⟨stopped, verdict, [⟨slowReport client method, .ok reported⟩], rfl, ?_, ?_⟩
    · intro event member
      obtain rfl := List.mem_singleton.mp member
      exact untimed_slowReport client method
    · simp [late, slowCall]

/-- Without a threshold the cleanup evaluates nothing. -/
theorem Timed.eq_nil (timed : Timed env client method timing)
    (disabled : method.slowCallThreshold = 0) : timing = [] := by
  cases timed with
  | untimed => rfl
  | fast threshold | slow threshold => omega

/-- Between events that leave the watch alone, it is stopped once and looked at once, by the check
for slow calls in the cleanup. -/
theorem evaluatedOnce_watch {before after : List (Event Value Failure)}
    {stopped verdict : Except Failure Value} {limit : Nat}
    (outside : ∀ event ∈ before ++ after, Untimed event.expr) :
    EvaluatedOnce watchStop (before ++ [⟨watchStop, stopped⟩, ⟨isSlow limit, verdict⟩] ++ after) ∧
      EvaluatedOnce (isSlow limit)
        (before ++ [⟨watchStop, stopped⟩, ⟨isSlow limit, verdict⟩] ++ after) := by
  have different : isSlow limit ≠ watchStop := by simp [isSlow, watchStop, Expr.callMember]
  refine ⟨⟨before, stopped, ⟨isSlow limit, verdict⟩ :: after, by simp, ?_⟩,
    ⟨before ++ [⟨watchStop, stopped⟩], verdict, after, by simp, ?_⟩⟩
  · intro event member
    rcases List.mem_append.mp member with early | late
    · exact (outside event (List.mem_append_left _ early)).1
    · rcases List.mem_cons.mp late with rfl | late
      · exact different
      · exact (outside event (List.mem_append_right _ late)).1
  · intro event member
    rcases List.mem_append.mp member with early | late
    · rcases List.mem_append.mp early with early | stop
      · exact (outside event (List.mem_append_left _ early)).2 limit
      · obtain rfl := List.mem_singleton.mp stop
        exact different.symm
    · exact (outside event (List.mem_append_right _ late)).2 limit

end Counts

/-- A method comes to its end without a value, or its last act is to give the fallback back. -/
def FallsBack (shape : ReturnShape) (run : Run Value Failure) : Prop :=
  match shape.value with
  | none => run.outcome = .completed
  | some type => run.GivesBack (ResultKind.ofType type).fallback

/-- What holds of every run of a method from its `try` on, where `tried` is the run of the body of
the `try` in it. -/
structure ErrorPolicy (env : Environment Value Failure) (client : Client) (method : Method)
    (shape : ReturnShape) (tried whole : Run Value Failure) : Prop where
  begins : tried.trace <+: whole.trace
  /-- An exception is reported once, right behind what the body evaluated. -/
  reported : ∀ failure, tried.outcome = .threw failure →
    timesCalled errorHook whole.trace = 1 ∧
      ∃ value, tried.trace ++ [⟨errorReport client method, .ok value⟩] <+: whole.trace
  /-- Nothing is reported without an exception. -/
  unreported : (∀ failure, tried.outcome ≠ .threw failure) →
    timesCalled errorHook whole.trace = 0
  /-- A method that throws is left by the same exception. -/
  thrown : method.throwsOnFailure = true → ∀ failure, tried.outcome = .threw failure →
    whole.outcome = .threw failure
  /-- A method that does not throw falls back. -/
  absorbed : method.throwsOnFailure = false → ∀ failure, tried.outcome = .threw failure →
    FallsBack shape whole
  /-- A value that the body gives back leaves the method. -/
  returned : ∀ source value, tried.outcome = .returned source value →
    whole.outcome = .returned source value
  /-- A body that comes to its end without a value falls back as well. -/
  completed : tried.outcome = .completed → FallsBack shape whole
  /-- Unless an exception comes out of the body, the request is sent and answered in it. -/
  sent : (∀ failure, tried.outcome ≠ .threw failure) →
    ∃ expr response, Sends expr ∧ ⟨expr, .ok response⟩ ∈ tried.trace
  /-- Whenever the request is answered, the next that is evaluated in the body is the question about
  the status. -/
  checked : ∀ before expr response after,
    tried.trace = before ++ ⟨expr, .ok response⟩ :: after → Sends expr →
      ∃ answer rest, after = ⟨statusQuestion method shape, answer⟩ :: rest
  /-- A method that does not throw and has a value answers a status that reports a failure with
  the fallback, next and last in its `try`. The value of the fallback leaves the method, and
  nothing is reported. -/
  refused : method.throwsOnFailure = false → ∀ type, shape.value = some type →
    ∀ verdict, ⟨refusedStatus, .ok verdict⟩ ∈ tried.trace → env.isTrue verdict = true →
      ∃ before answer, tried.trace = before ++
          [⟨refusedStatus, .ok verdict⟩, ⟨(ResultKind.ofType type).fallback, answer⟩] ∧
        ∀ value, answer = .ok value →
          whole.outcome = .returned (ResultKind.ofType type).fallback value ∧
            timesCalled errorHook whole.trace = 0
  /-- With a threshold the watch is stopped and looked at once, and the hook for slow calls is
  called when it says so. -/
  timed : 0 < method.slowCallThreshold → ∃ stopped verdict,
    [⟨watchStop, .ok stopped⟩, ⟨isSlow method.slowCallThreshold, .ok verdict⟩] <:+: whole.trace ∧
      EvaluatedOnce watchStop whole.trace ∧
      EvaluatedOnce (isSlow method.slowCallThreshold) whole.trace ∧
      timesCalled slowCallHook whole.trace = if env.isTrue verdict then 1 else 0
  /-- Without one the watch is left alone. -/
  untimed : method.slowCallThreshold = 0 →
    (∀ event ∈ whole.trace, Untimed event.expr) ∧ timesCalled slowCallHook whole.trace = 0

namespace Course

variable {env : Environment Value Failure} {client : Client} {method : Method}
variable {shape : ReturnShape} {tried whole : Run Value Failure}
variable {reports timing ending : List (Event Value Failure)}

/-- What is evaluated at the end of a method calls nothing and leaves the watch alone. It is at most
a fallback, in which neither a hook nor the watch is named. -/
theorem ending_quiet (course : Course env client method shape tried whole reports timing ending) :
    (∀ event ∈ ending, Untimed event.expr) ∧ ∀ name, timesCalled name ending = 0 := by
  have nothing (none : ending = []) :
      (∀ event ∈ ending, Untimed event.expr) ∧ ∀ name, timesCalled name ending = 0 := by
    subst none
    exact ⟨by simp, fun _ => rfl⟩
  by_cases falls : settled method tried.outcome = .completed
  · cases typed : shape.value with
    | none => exact nothing (course.bare falls typed).1
    | some type =>
      obtain ⟨answer, given, _⟩ := course.filled falls type typed
      have apart : Untimed (ResultKind.ofType type).fallback := (fallback_apart _).2
      have silent := calls_fallback (ResultKind.ofType type)
      -- Which fallback it is plays no part any more.
      generalize (ResultKind.ofType type).fallback = value at given apart silent
      subst given
      exact ⟨by simpa using apart, by simp [silent]⟩
  · exact nothing (course.left falls).1

/-- A method falls back when its `try` comes to its end. -/
theorem fallsBack (course : Course env client method shape tried whole reports timing ending)
    (falls : settled method tried.outcome = .completed) : FallsBack shape whole := by
  unfold FallsBack
  split
  · rename_i bare
    exact (course.bare falls bare).2
  · rename_i type typed
    obtain ⟨answer, rfl, outcome⟩ := course.filled falls type typed
    exact ⟨_, answer, course.trace, outcome⟩

/-- The error hook is called in the reports alone. -/
theorem timesCalled_errorHook
    (course : Course env client method shape tried whole reports timing ending)
    (quiet : timesCalled errorHook tried.trace = 0) :
    timesCalled errorHook whole.trace = timesCalled errorHook reports := by
  simp [course.trace, quiet, course.timed.unreported, course.ending_quiet.2]

/-- The hook for slow calls is called in the cleanup alone. -/
theorem timesCalled_slowCallHook
    (course : Course env client method shape tried whole reports timing ending)
    (quiet : timesCalled slowCallHook tried.trace = 0) :
    timesCalled slowCallHook whole.trace = timesCalled slowCallHook timing := by
  simp [course.trace, quiet, course.reported.apart.2, course.ending_quiet.2]

/-- A value that the body of the `try` gives back leaves the method, and nothing is reported. -/
theorem returned (course : Course env client method shape tried whole reports timing ending)
    {source : Expr} {value : Value} (gave : tried.outcome = .returned source value) :
    whole.outcome = .returned source value ∧ reports = [] := by
  have stays : settled method tried.outcome = .returned source value := by rw [gave, settled]
  have reported := course.reported
  rw [gave] at reported
  refine ⟨?_, reported⟩
  rw [(course.left (by simp [stays])).2, stays]

/-- An exception is reported, and leaves a method that throws. -/
theorem threw (course : Course env client method shape tried whole reports timing ending)
    {failure : Failure} (threw : tried.outcome = .threw failure) :
    (∃ value, reports = [⟨errorReport client method, .ok value⟩]) ∧
      (method.throwsOnFailure = true → whole.outcome = .threw failure) := by
  have reported := course.reported
  rw [threw] at reported
  refine ⟨reported, fun throws => ?_⟩
  have stays : settled method tried.outcome = .threw failure := by simp [settled, threw, throws]
  rw [(course.left (by simp [stays])).2, stays]

/-- In front of the cleanup and behind it the watch is left alone, if the body leaves it alone. -/
theorem untimed (course : Course env client method shape tried whole reports timing ending)
    (quiet : ∀ event ∈ tried.trace, Untimed event.expr) :
    ∀ event ∈ tried.trace ++ reports ++ ending, Untimed event.expr := by
  intro event member
  rcases List.mem_append.mp member with early | late
  · rcases List.mem_append.mp early with inside | report
    · exact quiet event inside
    · exact course.reported.apart.1 event report
  · exact course.ending_quiet.1 event late

/-- Nothing is reported when no exception comes out of the body. -/
theorem unreported (course : Course env client method shape tried whole reports timing ending)
    (fine : ∀ failure, tried.outcome ≠ .threw failure) : reports = [] := by
  have reported := course.reported
  cases ended : tried.outcome with
  | threw failure => exact absurd ended (fine failure)
  | completed | returned =>
    rw [ended] at reported
    exact reported

/-- In a timed method the watch is stopped and looked at once, in the cleanup, and what it shows
decides whether the hook for slow calls is called. -/
theorem watched (course : Course env client method shape tried whole reports timing ending)
    (quiet : ∀ event ∈ tried.trace, Untimed event.expr)
    (threshold : 0 < method.slowCallThreshold) : ∃ stopped verdict,
      [⟨watchStop, .ok stopped⟩, ⟨isSlow method.slowCallThreshold, .ok verdict⟩] <:+: whole.trace ∧
        EvaluatedOnce watchStop whole.trace ∧
        EvaluatedOnce (isSlow method.slowCallThreshold) whole.trace ∧
        timesCalled slowCallHook timing = if env.isTrue verdict then 1 else 0 := by
  obtain ⟨stopped, verdict, report, parts, report_untimed, called⟩ := course.timed.parts threshold
  have split : whole.trace = (tried.trace ++ reports) ++
      [⟨watchStop, .ok stopped⟩, ⟨isSlow method.slowCallThreshold, .ok verdict⟩] ++
        (report ++ ending) := by
    simp [course.trace, parts]
  have outside : ∀ event ∈ (tried.trace ++ reports) ++ (report ++ ending),
      Untimed event.expr := by
    have around := course.untimed quiet
    simp only [List.mem_append] at around ⊢
    rintro event ((inside | reported) | slow | last)
    · exact around event (Or.inl (Or.inl inside))
    · exact around event (Or.inl (Or.inr reported))
    · exact report_untimed event slow
    · exact around event (Or.inr last)
  obtain ⟨stops, checks⟩ := evaluatedOnce_watch outside
  rw [← split] at stops checks
  exact ⟨stopped, verdict, ⟨_, _, split.symm⟩, stops, checks, called⟩

/-- Once the body of the `try` leaves hooks and watch alone, sends the request and looks at the
status, and answers a status that reports a failure with the fallback, its course keeps the policy.
The clauses about the body are what is assumed of it; the others come of the course alone. -/
theorem policy (course : Course env client method shape tried whole reports timing ending)
    (untimed : ∀ event ∈ tried.trace, Untimed event.expr)
    (hookless : ∀ name ∈ [errorHook, slowCallHook], timesCalled name tried.trace = 0)
    (sent : tried.Obtains Sends) (checked : tried.FollowedBy Sends (statusQuestion method shape))
    (refused : method.throwsOnFailure = false → ∀ type, shape.value = some type →
      tried.GivesBackWhen env refusedStatus (ResultKind.ofType type).fallback) :
    ErrorPolicy env client method shape tried whole := by
  have errors := course.timesCalled_errorHook (hookless errorHook (by simp))
  have slowCalls := course.timesCalled_slowCallHook (hookless slowCallHook (by simp))
  constructor
  case begins =>
    exact ⟨reports ++ timing ++ ending, by simp [course.trace]⟩
  case reported =>
    intro failure threw
    obtain ⟨value, rfl⟩ := (course.threw threw).1
    exact ⟨by simp [errors, errorCall], value, timing ++ ending, by simp [course.trace]⟩
  case unreported =>
    intro fine
    rw [errors, course.unreported fine, timesCalled_nil]
  case thrown =>
    intro throws failure threw
    exact (course.threw threw).2 throws
  case absorbed =>
    intro lenient failure threw
    exact course.fallsBack (by simp [settled, threw, lenient])
  case returned =>
    intro source value gave
    exact (course.returned gave).1
  case completed =>
    intro completed
    exact course.fallsBack (by rw [completed, settled])
  case sent => exact sent
  case checked => exact checked
  case refused =>
    intro lenient type typed verdict seen holds
    obtain ⟨before, answer, trace, outcome⟩ := refused lenient type typed verdict seen holds
    refine ⟨before, answer, trace, fun value answered => ?_⟩
    rw [answered, Outcome.ofAnswer] at outcome
    obtain ⟨left, silent⟩ := course.returned outcome
    exact ⟨left, by rw [errors, silent, timesCalled_nil]⟩
  case timed =>
    intro threshold
    obtain ⟨stopped, verdict, watched, stops, checks, called⟩ := course.watched untimed threshold
    exact ⟨stopped, verdict, watched, stops, checks, slowCalls.trans called⟩
  case untimed =>
    intro disabled
    have nothing := course.timed.eq_nil disabled
    subst nothing
    exact ⟨by simpa [course.trace] using course.untimed untimed, slowCalls⟩

end Course

/-- A generated method has one `try` behind a few declarations, and from there on every run of it
keeps the error policy of the method. -/
def KeepsErrorPolicy (env : Environment Value Failure) (client : Client) (method : Method)
    (definition : MethodDef) : Prop :=
  ∃ endpoint opening work handler cleanup after, method.endpoint? = some endpoint ∧
    definition.body =
      opening ++ .guarded work (some ⟨"System.Exception", "e", handler⟩) cleanup :: after ∧
    (∀ stmt ∈ opening, ∃ name init, stmt = .declare name init) ∧
    ∀ history, ErrorPolicy env client method endpoint.returnShape
      (runBody env none work history)
      (runBody env none
        (.guarded work (some ⟨"System.Exception", "e", handler⟩) cleanup :: after) history)

/-- The `try` of a method keeps the error policy, whatever was evaluated before it. This is where
the clauses about the sending and the status are put together from the lemmas on the request. -/
theorem requestStmt_errorPolicy {env : Environment Value Failure} (reliable : Reliable env)
    (client : Client) (method : Method) (endpoint : Endpoint) (stubs : List Prototype)
    (history : List (Event Value Failure)) :
    ErrorPolicy env client method endpoint.returnShape
      (runBody env none [requestStmt client method endpoint
        (stubNames stubs method endpoint.returnShape)] history)
      (runBody env none (.guarded [requestStmt client method endpoint
          (stubNames stubs method endpoint.returnShape)]
          (some ⟨"System.Exception", "e", exceptionHandler client method⟩)
          (slowCallCleanup client method) :: finalReturn method endpoint.returnShape) history) := by
  obtain ⟨reports, timing, ending, course⟩ := exists_course reliable client method endpoint
    (stubNames stubs method endpoint.returnShape) history
  refine course.policy ?_ ?_ ?_ ?_ ?_
  · refine runBody_evaluates env none _ history fun expr member => ?_
    exact requestStmt_untimed (by simpa using member)
  · intro name hook
    have hookless := runBody_evaluates env none [requestStmt client method endpoint
        (stubNames stubs method endpoint.returnShape)] history fun expr member =>
      requestStmt_hookless (by simpa using member)
    refine timesCalled_eq_zero fun event happened call called same => ?_
    exact hookless event happened call called (same ▸ hook)
  · rw [runBody_singleton]
    exact requestStmt_obtains env none client endpoint _ history
  · rw [runBody_singleton]
    exact requestStmt_followedBy env none client endpoint _ history
  · intro lenient type typed
    rw [runBody_singleton]
    exact requestStmt_givesBackWhen env none client endpoint _ history lenient typed

/-- However the evaluations turn out, each generated method keeps its error policy: the methods of
the generated class are those of the client that take part, in order, and whatever was evaluated
before the `try` of one and whatever comes of the evaluations in it, the run from there on has all
the clauses of `ErrorPolicy`. Only the hooks and the watch are taken not to fail. -/
theorem methods_keep_error_policy {env : Environment Value Failure} (reliable : Reliable env)
    (client : Client) : List.Forall₂ (KeepsErrorPolicy env client) client.eligibleMethods
      (clientUnit client).body.methods := by
  refine (forall₂_generated client [] client.methods).imp fun method definition generated => ?_
  obtain ⟨endpoint, declared, found, _⟩ := generated
  refine ⟨endpoint, .declare "url" (urlExpr method endpoint.pathTemplate) :: startWatch method,
    [requestStmt client method endpoint (stubNames declared method endpoint.returnShape)],
    exceptionHandler client method, slowCallCleanup client method,
    finalReturn method endpoint.returnShape, found, by simp [methodDef, methodBody], ?_,
    requestStmt_errorPolicy reliable client method endpoint declared⟩
  intro stmt member
  rcases List.mem_cons.mp member with rfl | watch
  · exact ⟨_, _, rfl⟩
  · unfold startWatch at watch
    split at watch
    · exact ⟨_, _, List.mem_singleton.mp watch⟩
    · cases watch

/-- Requests are never answered, and all else succeeds. -/
def brokenLine : Environment Unit String where
  answer
    | _, .await _ => .error "no connection"
    | _, _ => .ok ()
  isTrue _ := true
  elements _ _ := (0, none)
  isOf _ _ := false

/-- Requests are answered, and whatever is asked about an answer holds: its status reports a
failure. -/
def refusingServer : Environment Unit String where
  answer _ _ := .ok ()
  isTrue _ := true
  elements _ _ := (0, none)
  isOf _ _ := false

/-- A timed method that does not throw and has a value. -/
def countingMethod : Method where
  name := "CountAsync"
  parameters := []
  role := .ok ⟨.get, "/count", ⟨"Task", some (.named "int" [])⟩⟩
  throwsOnFailure := false
  serializer := .newtonsoft
  slowCallThreshold := 500
  contentSuppressed := false

/-- A client with one method. -/
def countingClient : Client where
  scope := ""
  className := "Counters"
  imports := []
  methods := [countingMethod]
  serializer := .newtonsoft
  slowCallThreshold := 0
  targetsModernRuntime := true

/-- The error policy where a request is not answered and where it is refused. In the first case the
exception is reported and the fallback given back at the end of the method. In the second the
request is answered, the status of the answer is looked at next and reports a failure, and the
fallback is given back at once, without a report. -/
theorem policy_on_broken_and_refused_requests :
    (Reliable brokenLine ∧
      List.Forall₂ (KeepsErrorPolicy brokenLine countingClient) [countingMethod]
        (clientUnit countingClient).body.methods) ∧
    (Reliable refusingServer ∧
      List.Forall₂ (KeepsErrorPolicy refusingServer countingClient) [countingMethod]
        (clientUnit countingClient).body.methods) ∧
    ∃ definition, (clientUnit countingClient).body.methods = [definition] ∧
      timesCalled errorHook (runBody brokenLine none definition.body []).trace = 1 ∧
      (runBody brokenLine none definition.body []).outcome = .returned (.literal .defaultValue) () ∧
      [⟨.await (.callMember (.name transportField) "SendAsync" [.name "request"]), .ok ()⟩,
        ⟨refusedStatus, .ok ()⟩, ⟨.literal .defaultValue, .ok ()⟩] <:+:
          (runBody refusingServer none definition.body []).trace ∧
      timesCalled errorHook (runBody refusingServer none definition.body []).trace = 0 ∧
      (runBody refusingServer none definition.body []).outcome =
        .returned (.literal .defaultValue) () := by
  have broken : Reliable brokenLine :=
    ⟨fun _ _ _ _ => ⟨(), rfl⟩, fun _ => ⟨(), rfl⟩, fun _ _ => ⟨(), rfl⟩⟩
  have refusing : Reliable refusingServer :=
    ⟨fun _ _ _ _ => ⟨(), rfl⟩, fun _ => ⟨(), rfl⟩, fun _ _ => ⟨(), rfl⟩⟩
  refine ⟨⟨broken, methods_keep_error_policy broken countingClient⟩,
    ⟨refusing, methods_keep_error_policy refusing countingClient⟩, _, rfl, ?_, rfl, ?_, ?_, rfl⟩
  · decide +kernel
  · refine List.IsInfix.trans ?_ (List.drop_suffix 7 _).isInfix
    exact (List.prefix_iff_eq_take.mpr rfl).isInfix
  · decide +kernel

end TypedClients.Generation
