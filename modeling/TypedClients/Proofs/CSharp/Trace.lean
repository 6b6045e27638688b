import TypedClients.Proofs.CSharp.Execution

/-!
# What a run shows

How often methods are called and expressions are evaluated in a run, in what way a run comes
to give a value back, and what it evaluates right behind something else. A trace is a list, and what
a run shows is said about the list as a whole: what stands before an event in it, what behind.

`FollowedBy` is about the event right behind another one, and `Obtains` about the answer that a run
comes to know on its way to an end. Each of the notions has one lemma for an evaluation and one for
a run behind another, by which it is carried through a method statement by statement.
-/

namespace TypedClients.CSharp

/-! ## Parts of a trace -/

section Parts

variable {Item : Type} {front back before after : List Item} {item : Item}

/-- An item that is not in the front part of a list stands behind that part. -/
theorem exists_behind (same : front ++ back = before ++ item :: after) (absent : item ∉ front) :
    ∃ middle, before = front ++ middle ∧ back = middle ++ item :: after := by
  rcases List.append_eq_append_iff.mp same with ⟨middle, rfl, rest⟩ | ⟨middle, rfl, rest⟩
  · exact ⟨middle, rfl, rest⟩
  · cases middle with
    | nil => exact ⟨[], by simp, by simpa using rest.symm⟩
    | cons first middle =>
      obtain ⟨rfl, _⟩ := List.cons.inj rest
      simp at absent

/-- An item that is not in the back part of a list stands in front of that part. So where a list is
put together of two and cut at an item, the cut is known to be in one of them. -/
theorem exists_before (same : front ++ back = before ++ item :: after) (absent : item ∉ back) :
    ∃ middle, front = before ++ item :: middle ∧ after = middle ++ back := by
  by_cases early : item ∈ front
  · rcases List.append_eq_append_iff.mp same with ⟨middle, rfl, rest⟩ | ⟨middle, rfl, rest⟩
    · exact absurd (rest ▸ by simp) absent
    · cases middle with
      | nil =>
        have first : item ∈ back := by
          rw [List.nil_append] at rest
          exact rest ▸ List.mem_cons_self
        exact absurd first absent
      | cons first middle =>
        obtain ⟨rfl, behind⟩ := List.cons.inj rest
        exact ⟨middle, rfl, behind⟩
  · obtain ⟨middle, _, rest⟩ := exists_behind same early
    exact absurd (rest ▸ by simp) absent

end Parts

variable {Value Failure : Type}

/-- A statement and what is evaluated behind it, which stands in the statements behind it. When the
statement is left, nothing is evaluated behind it. -/
theorem exists_trace_cons (env : Environment Value Failure) (handling : Option Failure)
    (stmt : Stmt) (body : List Stmt) (history : List (Event Value Failure)) :
    ∃ later, (runBody env handling (stmt :: body) history).trace =
        (stmt.run env handling history).trace ++ later ∧
      ∀ event ∈ later, event.expr ∈ expressionsOf body := by
  rw [runBody]
  by_cases completed : (stmt.run env handling history).outcome = .completed
  · rw [Run.andThen_of_completed _ _ completed]
    exact ⟨_, rfl, runBody_evaluates env handling body _ fun _ inside => inside⟩
  · rw [Run.andThen_of_left _ _ completed]
    exact ⟨[], by simp, by simp⟩

/-! ## Calls and returns -/

/-- How often methods of a name are called in what was evaluated. -/
def timesCalled (name : String) (trace : List (Event Value Failure)) : Nat :=
  (trace.flatMap fun event => event.expr.calls).countP fun call => call.callee == name

/-- An expression is evaluated at one place and at no other. -/
def EvaluatedOnce (expr : Expr) (trace : List (Event Value Failure)) : Prop :=
  ∃ before answer after, trace = before ++ ⟨expr, answer⟩ :: after ∧
    ∀ event ∈ before ++ after, event.expr ≠ expr

/-- Nothing is called where nothing is evaluated. -/
@[simp] theorem timesCalled_nil (name : String) :
    timesCalled name ([] : List (Event Value Failure)) = 0 := rfl

/-- The calls in a first evaluation are added to those in the others. -/
@[simp] theorem timesCalled_cons (name : String) (event : Event Value Failure)
    (trace : List (Event Value Failure)) : timesCalled name (event :: trace) =
      (event.expr.calls.countP fun call => call.callee == name) + timesCalled name trace := by
  simp [timesCalled]

/-- The calls in two parts of a trace are added up, in whichever part they are. -/
@[simp] theorem timesCalled_append (name : String) (first second : List (Event Value Failure)) :
    timesCalled name (first ++ second) = timesCalled name first + timesCalled name second := by
  simp [timesCalled]

/-- A method that no evaluated expression calls is called at no time. -/
theorem timesCalled_eq_zero {name : String} {trace : List (Event Value Failure)}
    (quiet : ∀ event ∈ trace, ∀ call ∈ event.expr.calls, call.callee ≠ name) :
    timesCalled name trace = 0 := by
  refine List.countP_eq_zero.mpr fun call member => ?_
  obtain ⟨event, happened, called⟩ := List.mem_flatMap.mp member
  simpa using quiet event happened call called

/-- How a method is left that gives back the value of an expression: with the value, or with the
exception that came of it. -/
def Outcome.ofAnswer (source : Expr) : Except Failure Value → Outcome Value Failure
  | .ok value => .returned source value
  | .error failure => .threw failure

namespace Run

/-- The last thing in a run is that the value of an expression is given back. -/
def GivesBack (value : Expr) (run : Run Value Failure) : Prop :=
  ∃ before answer, run.trace = before ++ [⟨value, answer⟩] ∧ run.outcome = .ofAnswer value answer

/-- When a condition holds, the value of an expression is given back next, and the run is over. -/
def GivesBackWhen (env : Environment Value Failure) (condition value : Expr)
    (run : Run Value Failure) : Prop :=
  ∀ verdict, ⟨condition, .ok verdict⟩ ∈ run.trace → env.isTrue verdict = true →
    ∃ before answer, run.trace = before ++ [⟨condition, .ok verdict⟩, ⟨value, answer⟩] ∧
      run.outcome = .ofAnswer value answer

variable {env : Environment Value Failure} {condition value : Expr}
variable {history : List (Event Value Failure)}

/-- The condition may be behind an evaluation of something else. If that fails, the condition is not
evaluated at all. -/
theorem GivesBackWhen.evaluate {expr : Expr}
    {next : Value → List (Event Value Failure) → Run Value Failure} (other : expr ≠ condition)
    (rest : ∀ result after, (next result after).GivesBackWhen env condition value) :
    (env.evaluate history expr next).GivesBackWhen env condition value := by
  intro verdict member holds
  unfold Environment.evaluate at member ⊢
  split at member
  · rename_i result _
    rcases List.mem_cons.mp member with same | late
    · exact absurd (congrArg Event.expr same).symm other
    · obtain ⟨before, answer, trace, outcome⟩ := rest _ _ verdict late holds
      exact ⟨⟨expr, .ok result⟩ :: before, answer, by simp [behind, trace], outcome⟩
  · have same := List.mem_singleton.mp member
    exact absurd (congrArg Event.expr same).symm other

/-- The condition may be behind a run without it. If that run is left, the condition is not
evaluated at all. -/
theorem GivesBackWhen.andThen {first : Run Value Failure}
    {next : List (Event Value Failure) → Run Value Failure}
    (free : first.Evaluates fun expr => expr ≠ condition)
    (rest : ∀ after, (next after).GivesBackWhen env condition value) :
    (andThen history first next).GivesBackWhen env condition value := by
  intro verdict member holds
  by_cases completed : first.outcome = .completed
  · rw [andThen_of_completed history next completed] at member ⊢
    rcases List.mem_append.mp member with early | late
    · exact absurd rfl (free _ early)
    · obtain ⟨before, answer, trace, outcome⟩ := rest _ verdict late holds
      exact ⟨first.trace ++ before, answer, by simp [trace], outcome⟩
  · rw [andThen_of_left history next completed] at member
    exact absurd rfl (free _ member)

end Run

namespace Run

/-! ## What comes next -/

/-- Right behind each evaluation of a kind that gives a value, an expression is evaluated: nothing
is evaluated between the two, and the run does not end there. -/
def FollowedBy (kind : Expr → Prop) (look : Expr) (run : Run Value Failure) : Prop :=
  ∀ before expr value after, run.trace = before ++ ⟨expr, .ok value⟩ :: after → kind expr →
    ∃ answer rest, after = ⟨look, answer⟩ :: rest

variable {env : Environment Value Failure} {history : List (Event Value Failure)}
variable {kind : Expr → Prop} {look : Expr}

/-- A run without an evaluation of the kind has nothing to be followed. -/
theorem FollowedBy.of_absent {run : Run Value Failure}
    (absent : run.Evaluates fun expr => ¬ kind expr) : run.FollowedBy kind look := by
  intro before expr value after trace isKind
  exact absurd isKind (absent ⟨expr, .ok value⟩ (by simp [trace]))

/-- The evaluation may be behind a run without one of its kind. Where that run is left, there is no
evaluation of the kind to be followed by anything. -/
theorem FollowedBy.andThen {first : Run Value Failure}
    {next : List (Event Value Failure) → Run Value Failure}
    (absent : first.Evaluates fun expr => ¬ kind expr)
    (rest : ∀ after, (next after).FollowedBy kind look) :
    (andThen history first next).FollowedBy kind look := by
  by_cases completed : first.outcome = .completed
  · rw [andThen_of_completed history next completed]
    intro before expr value after trace isKind
    obtain ⟨middle, rfl, behind⟩ := exists_behind trace fun early => absent _ early isKind
    exact rest _ middle expr value after behind isKind
  · rw [andThen_of_left history next completed]
    exact .of_absent absent

/-- The evaluation may be behind one of another kind, whatever becomes of that one. -/
theorem FollowedBy.evaluate {expr : Expr}
    {next : Value → List (Event Value Failure) → Run Value Failure} (other : ¬ kind expr)
    (rest : ∀ result after, (next result after).FollowedBy kind look) :
    (env.evaluate history expr next).FollowedBy kind look := by
  unfold Environment.evaluate
  split
  · rename_i result _
    intro before found value after trace isKind
    cases before with
    | nil =>
      cases (List.cons.inj trace).1
      exact absurd isKind other
    | cons event before =>
      obtain ⟨-, behind⟩ := List.cons.inj trace
      exact rest result _ before found value after behind isKind
  · exact .of_absent (by simpa [Evaluates] using other)

/-- The evaluation itself, when what is done with its value begins with the look and evaluates
nothing of the kind any more. -/
theorem FollowedBy.asked {expr : Expr}
    {next : Value → List (Event Value Failure) → Run Value Failure}
    (begins : ∀ result after, ∃ answer rest, (next result after).trace = ⟨look, answer⟩ :: rest)
    (absent : ∀ result after, (next result after).Evaluates fun expr => ¬ kind expr) :
    (env.evaluate history expr next).FollowedBy kind look := by
  unfold Environment.evaluate
  split
  · rename_i result _
    intro before found value after trace isKind
    cases before with
    | nil =>
      obtain ⟨-, rfl⟩ := List.cons.inj trace
      exact begins result _
    | cons event before =>
      obtain ⟨-, behind⟩ := List.cons.inj trace
      have inside : (⟨found, .ok value⟩ : Event Value Failure) ∈
          (next result (history ++ [⟨expr, .ok result⟩])).trace := by
        rw [behind]
        exact List.mem_append_right before List.mem_cons_self
      exact absurd isKind (absent result _ _ inside)
  · intro before found value after trace _
    have member : (⟨found, .ok value⟩ : Event Value Failure) ∈
        before ++ ⟨found, .ok value⟩ :: after := List.mem_append_right before List.mem_cons_self
    rw [← trace] at member
    cases List.mem_singleton.mp member

/-- A run that ends without an exception has an evaluation of a kind that gave a value. -/
def Obtains (kind : Expr → Prop) (run : Run Value Failure) : Prop :=
  (∀ failure, run.outcome ≠ .threw failure) →
    ∃ expr value, kind expr ∧ ⟨expr, .ok value⟩ ∈ run.trace

/-- An evaluation of the kind gives a value or ends the run with an exception, and in neither case
does it matter what comes next. -/
theorem Obtains.asked {expr : Expr}
    (next : Value → List (Event Value Failure) → Run Value Failure) (isKind : kind expr) :
    (env.evaluate history expr next).Obtains kind := by
  intro fine
  unfold Environment.evaluate at fine ⊢
  split at fine
  · rename_i value _
    exact ⟨expr, value, isKind, List.mem_cons_self⟩
  · rename_i failure _
    exact absurd rfl (fine failure)

/-- The evaluation may be behind one of something else: if that one fails, the run ends with an
exception, which is one of the two ways. -/
theorem Obtains.evaluate {expr : Expr}
    {next : Value → List (Event Value Failure) → Run Value Failure}
    (rest : ∀ result after, (next result after).Obtains kind) :
    (env.evaluate history expr next).Obtains kind := by
  intro fine
  unfold Environment.evaluate at fine ⊢
  split at fine
  · rename_i result _
    obtain ⟨found, value, isKind, member⟩ := rest result _ fine
    exact ⟨found, value, isKind, List.mem_cons_of_mem _ member⟩
  · rename_i failure _
    exact absurd rfl (fine failure)

/-- The evaluation may be behind a run that gives no value back. That run comes to its end, or an
exception comes out of it. -/
theorem Obtains.andThen {first : Run Value Failure}
    {next : List (Event Value Failure) → Run Value Failure}
    (stays : ∀ source value, first.outcome ≠ .returned source value)
    (rest : ∀ after, (next after).Obtains kind) : (andThen history first next).Obtains kind := by
  intro fine
  by_cases completed : first.outcome = .completed
  · rw [andThen_of_completed history next completed] at fine ⊢
    obtain ⟨found, value, isKind, member⟩ := rest _ fine
    exact ⟨found, value, isKind, List.mem_append_right _ member⟩
  · rw [andThen_of_left history next completed] at fine
    cases ended : first.outcome with
    | completed => exact absurd ended completed
    | returned source value => exact absurd ended (stays source value)
    | threw failure => exact absurd ended (fine failure)

end Run

/-- An expression that gives a value is evaluated for its effect. -/
theorem run_evaluate_of_ok {env : Environment Value Failure} (handling : Option Failure)
    {expr : Expr} {history : List (Event Value Failure)} {value : Value}
    (answered : env.answer history expr = .ok value) :
    (Stmt.evaluate expr).run env handling history = ⟨[⟨expr, .ok value⟩], .completed⟩ := by
  simp [Stmt.run, Environment.evaluate, answered, Run.behind, Run.empty]

/-- A condition that gives a value decides whether its body is run. -/
theorem run_whenTrue_of_ok {env : Environment Value Failure} (handling : Option Failure)
    {condition : Expr} (body : List Stmt) {history : List (Event Value Failure)} {verdict : Value}
    (answered : env.answer history condition = .ok verdict) :
    (Stmt.whenTrue condition body).run env handling history =
      (if env.isTrue verdict then
          runBody env handling body (history ++ [⟨condition, .ok verdict⟩])
        else .empty).behind ⟨condition, .ok verdict⟩ := by
  simp only [Stmt.run, Environment.evaluate, answered]

/-- A statement that gives a value back evaluates it and leaves the method. -/
theorem run_giveBack (env : Environment Value Failure) (handling : Option Failure)
    (value : Expr) (history : List (Event Value Failure)) :
    (Stmt.giveBack value).run env handling history =
      ⟨[⟨value, env.answer history value⟩], .ofAnswer value (env.answer history value)⟩ := by
  simp only [Stmt.run, Environment.evaluate]
  cases env.answer history value <;> rfl

/-- Statements that begin with a check that gives a value back do so when the condition of the
check holds, if the others have nothing to do with that condition. -/
theorem givesBackWhen_check (env : Environment Value Failure) (handling : Option Failure)
    {condition value : Expr} {rest : List Stmt} (history : List (Event Value Failure))
    (other : value ≠ condition) (free : ∀ expr ∈ expressionsOf rest, expr ≠ condition) :
    (runBody env handling (.whenTrue condition [.giveBack value] :: rest) history).GivesBackWhen
      env condition value := by
  intro verdict member holds
  rw [runBody] at member ⊢
  cases found : env.answer history condition with
  | error failure =>
    have checked : (Stmt.whenTrue condition [.giveBack value]).run env handling history =
        ⟨[⟨condition, .error failure⟩], .threw failure⟩ := by
      simp [Stmt.run, Environment.evaluate, found]
    rw [checked, Run.andThen_of_left _ _ (by simp)] at member
    simp at member
  | ok result =>
    by_cases taken : env.isTrue result = true
    · have checked : (Stmt.whenTrue condition [.giveBack value]).run env handling history =
          ((Stmt.giveBack value).run env handling (history ++ [⟨condition, .ok result⟩])).behind
            ⟨condition, .ok result⟩ := by
        rw [run_whenTrue_of_ok handling _ found, if_pos taken, runBody_singleton]
      have left (answer : Except Failure Value) :
          (Outcome.ofAnswer value answer : Outcome Value Failure) ≠ .completed := by
        cases answer <;> simp [Outcome.ofAnswer]
      rw [checked, run_giveBack, Run.behind, Run.andThen_of_left _ _ (left _)] at member ⊢
      rcases List.mem_cons.mp member with same | late
      · cases same
        exact ⟨[], _, rfl, rfl⟩
      · have same := List.mem_singleton.mp late
        exact absurd (congrArg Event.expr same).symm other
    · have checked : (Stmt.whenTrue condition [.giveBack value]).run env handling history =
          ⟨[⟨condition, .ok result⟩], .completed⟩ := by
        rw [run_whenTrue_of_ok handling _ found, if_neg taken]
        rfl
      rw [checked, Run.andThen_of_completed _ _ rfl] at member
      rcases List.mem_append.mp member with early | late
      · have same := List.mem_singleton.mp early
        cases same
        exact absurd holds taken
      · exact absurd rfl (runBody_evaluates env handling rest _ free _ late)

end TypedClients.CSharp
