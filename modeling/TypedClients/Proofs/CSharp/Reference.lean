import TypedClients.Proofs.CSharp.Scope

/-!
# References to locals

A local is in scope in the whole block that declares it, but it may be used only behind its
declaration; the resource of a `using` and the items of a loop are no exception. A reference is a
place where a name stands together with the declarations that are in scope and come before it. The
places are those of `mentionsIn`, in the same order.

Where no local clashes with another one, a name has one declaration in scope at most, so that a
reference behind a declaration in scope is behind the only one.
-/

namespace TypedClients.CSharp

/-- A place where a name stands, with the locals that are in scope there and have been declared
before it. -/
structure Reference extends Mention where
  declared : List String
deriving DecidableEq

namespace Reference

/-- The name at a place is that of a local declared before, or one of the names that are known. -/
def Bound (known : String → Prop) (reference : Reference) : Prop :=
  reference.name ∈ reference.declared ∨ known reference.name

/-- There is exactly one declaration of the name in whose scope the place lies, and the place is
behind it. -/
def BehindOne (reference : Reference) : Prop :=
  reference.scope.count reference.name = 1 ∧ reference.name ∈ reference.declared

end Reference

/-- The places in an expression where a name stands. -/
def Expr.references (scope declared : List String) (expr : Expr) : List Reference :=
  expr.names.map fun name => { scope, name, declared }

mutual

/-- The places in a statement where a name stands. The scope has the locals in scope, those of the
block of the statement included, and the others are those of them declared before the
statement. -/
@[simp]
def Stmt.references (scope declared : List String) : Stmt → List Reference
  | .declare _ init => init.references scope declared
  | .assign target value => target.references scope declared ++ value.references scope declared
  | .evaluate value | .giveBack value => value.references scope declared
  | .withResource name init body =>
    init.references (name :: scope) declared ++
      referencesIn (blockLocals body ++ name :: scope) (name :: declared) body
  | .forEach name items body =>
    items.references scope declared ++
      referencesIn (blockLocals body ++ name :: scope) (name :: declared) body
  | .whenTrue condition body =>
    condition.references scope declared ++ referencesIn (blockLocals body ++ scope) declared body
  | .block body => referencesIn (blockLocals body ++ scope) declared body
  | .guarded body handler cleanup =>
    referencesIn (blockLocals body ++ scope) declared body ++
      handlerReferences scope declared handler ++ cleanupReferences scope declared cleanup
  | .rethrow | .blank => []

/-- The places in the statements of a block, whose own locals are in scope, where a name stands.
Behind each statement its block has one local more when the statement declares one for it. -/
@[simp]
def referencesIn (scope declared : List String) : List Stmt → List Reference
  | [] => []
  | stmt :: body =>
    stmt.references scope declared ++ referencesIn scope (declared ++ blockLocals [stmt]) body

/-- The places in a handler where a name stands. The caught exception is declared there. -/
@[simp]
def handlerReferences (scope declared : List String) :
    Option (CatchClause (List Stmt)) → List Reference
  | none => []
  | some ⟨_, caught, handler⟩ =>
    referencesIn (blockLocals handler ++ caught :: scope) (caught :: declared) handler

/-- The places in a cleanup where a name stands. -/
@[simp]
def cleanupReferences (scope declared : List String) : Option (List Stmt) → List Reference
  | none => []
  | some cleanup => referencesIn (blockLocals cleanup ++ scope) declared cleanup

end

/-- The places in the body of a method where a name stands. -/
def MethodDef.references (definition : MethodDef) : List Reference :=
  referencesIn (blockLocals definition.body) [] definition.body

/-- Behind the first of two lists of statements, its locals are declared. -/
@[simp] theorem referencesIn_append (scope declared : List String) (first second : List Stmt) :
    referencesIn scope declared (first ++ second) =
      referencesIn scope declared first ++
        referencesIn scope (declared ++ blockLocals first) second := by
  induction first generalizing declared with
  | nil => simp
  | cons stmt first inductionHypothesis =>
    rw [List.cons_append, referencesIn, inductionHypothesis, referencesIn,
      blockLocals_cons stmt first, List.append_assoc, List.append_assoc]

/-- The references in statements are those in each statement, when these declare no local. -/
theorem mem_referencesIn {scope declared : List String} {body : List Stmt}
    (localless : ∀ stmt ∈ body, blockLocals [stmt] = []) {reference : Reference} :
    reference ∈ referencesIn scope declared body ↔
      ∃ stmt ∈ body, reference ∈ stmt.references scope declared := by
  induction body with
  | nil => simp
  | cons stmt body inductionHypothesis =>
    obtain ⟨none, others⟩ := List.forall_mem_cons.mp localless
    simp [none, inductionHypothesis others]

/-! ## References and mentions -/

/-- What holds of the references in an expression holds of its names. -/
@[simp] theorem forall_references {scope declared : List String} {expr : Expr}
    {property : Reference → Prop} :
    (∀ reference ∈ expr.references scope declared, property reference) ↔
      ∀ name ∈ expr.names, property { scope, name, declared } := by
  simp [Expr.references]

/-- The references in an expression are its mentions. -/
@[simp] theorem Expr.mentions_references (scope declared : List String) (expr : Expr) :
    (expr.references scope declared).map Reference.toMention = expr.mentions scope := by
  simp [Expr.references, Expr.mentions]

mutual

/-- The references in a statement are its mentions. -/
theorem Stmt.mentions_references (scope declared : List String) (stmt : Stmt) :
    (stmt.references scope declared).map Reference.toMention = stmt.mentions scope := by
  cases stmt <;>
    simp [mentions_referencesIn, mentions_handlerReferences, mentions_cleanupReferences]

/-- The references in statements are their mentions. -/
theorem mentions_referencesIn (scope declared : List String) (body : List Stmt) :
    (referencesIn scope declared body).map Reference.toMention = mentionsIn scope body := by
  cases body with
  | nil => rfl
  | cons stmt body =>
    rw [referencesIn, List.map_append, Stmt.mentions_references, mentions_referencesIn, mentionsIn]

/-- The references in a handler are its mentions. -/
theorem mentions_handlerReferences (scope declared : List String)
    (handler : Option (CatchClause (List Stmt))) :
    (handlerReferences scope declared handler).map Reference.toMention =
      handlerMentions scope handler := by
  obtain _ | ⟨_, caught, handler⟩ := handler
  · rfl
  · exact mentions_referencesIn _ _ handler

/-- The references in a cleanup are its mentions. -/
theorem mentions_cleanupReferences (scope declared : List String)
    (cleanup : Option (List Stmt)) :
    (cleanupReferences scope declared cleanup).map Reference.toMention =
      cleanupMentions scope cleanup := by
  cases cleanup with
  | none => rfl
  | some cleanup => exact mentions_referencesIn _ _ cleanup

end

mutual

/-- What a statement sees declared is in scope: the induction is on the statement, and each block
puts its locals in scope before one of them is declared. -/
theorem Stmt.declared_subset (scope declared : List String) (stmt : Stmt)
    (visible : declared ⊆ scope) :
    ∀ reference ∈ stmt.references scope declared, reference.declared ⊆ reference.scope := by
  have opened (name : String) : name :: declared ⊆ name :: scope :=
    List.cons_subset_cons name visible
  have wider (name : String) : declared ⊆ name :: scope :=
    List.subset_cons_of_subset name visible
  cases stmt with
  | declare | assign | evaluate | giveBack | rethrow | blank =>
    simp [or_imp, forall_and, visible]
  | whenTrue condition body =>
    simpa [or_imp, forall_and, visible] using block_declared_subset scope declared body visible
  | block body => exact block_declared_subset scope declared body visible
  | withResource name init body =>
    have inside := block_declared_subset _ _ body (opened name)
    simpa [or_imp, forall_and, wider name] using inside
  | forEach name items body =>
    have inside := block_declared_subset _ _ body (opened name)
    simpa [or_imp, forall_and, visible] using inside
  | guarded body handler cleanup =>
    have tried := block_declared_subset scope declared body visible
    have handled := handler_declared_subset scope declared handler visible
    have cleaned := cleanup_declared_subset scope declared cleanup visible
    exact List.forall_mem_append.mpr ⟨List.forall_mem_append.mpr ⟨tried, handled⟩, cleaned⟩

/-- The same of a block. -/
theorem block_declared_subset (scope declared : List String) (body : List Stmt)
    (visible : declared ⊆ scope) :
    ∀ reference ∈ referencesIn (blockLocals body ++ scope) declared body,
      reference.declared ⊆ reference.scope :=
  declared_subset_of_mem _ declared body (List.subset_append_of_subset_right _ visible)
    (List.subset_append_left _ _)

/-- The same of statements whose block has its locals in scope: what was declared before a statement
is among these. -/
theorem declared_subset_of_mem (scope declared : List String) (body : List Stmt)
    (visible : declared ⊆ scope) (own : blockLocals body ⊆ scope) :
    ∀ reference ∈ referencesIn scope declared body, reference.declared ⊆ reference.scope := by
  cases body with
  | nil => simp
  | cons stmt body =>
    rw [blockLocals_cons] at own
    obtain ⟨first, rest⟩ := List.append_subset.mp own
    exact List.forall_mem_append.mpr ⟨Stmt.declared_subset scope declared stmt visible,
      declared_subset_of_mem scope _ body (List.append_subset.mpr ⟨visible, first⟩) rest⟩

/-- The same of a handler. -/
theorem handler_declared_subset (scope declared : List String)
    (handler : Option (CatchClause (List Stmt))) (visible : declared ⊆ scope) :
    ∀ reference ∈ handlerReferences scope declared handler,
      reference.declared ⊆ reference.scope := by
  obtain _ | ⟨_, caught, handler⟩ := handler
  · simp
  · exact block_declared_subset _ _ handler (List.cons_subset_cons caught visible)

/-- The same of a cleanup. -/
theorem cleanup_declared_subset (scope declared : List String) (cleanup : Option (List Stmt))
    (visible : declared ⊆ scope) :
    ∀ reference ∈ cleanupReferences scope declared cleanup,
      reference.declared ⊆ reference.scope := by
  cases cleanup with
  | none => simp
  | some cleanup => exact block_declared_subset scope declared cleanup visible

end

/-! ## Single declarations -/

/-- A local that its block declares without a clash is in scope once, so there is one declaration
only that a use could mean. -/
theorem count_of_blockLocals {scope : List String} {body : List Stmt} {name : String}
    (apart : allUnclashing scope body = true) (own : name ∈ blockLocals body) :
    scope.count name = 1 := by
  induction body with
  | nil => cases own
  | cons stmt body inductionHypothesis =>
    rw [allUnclashing, Bool.and_eq_true] at apart
    rw [blockLocals_cons] at own
    rcases List.mem_append.mp own with here | later
    · cases stmt <;> simp_all
    · exact inductionHypothesis apart.2 later

/-- A block that declares its locals without a clash puts each name in scope once. -/
theorem block_nodup {scope : List String} {body : List Stmt} (distinct : scope.Nodup)
    (apart : allUnclashing (blockLocals body ++ scope) body = true) :
    (blockLocals body ++ scope).Nodup := by
  rw [List.nodup_iff_count]
  intro name
  by_cases own : name ∈ blockLocals body
  · exact (count_of_blockLocals apart own).le
  · rw [List.count_append, List.count_eq_zero.mpr own, Nat.zero_add]
    exact List.nodup_iff_count.mp distinct name

mutual

/-- In a statement without clashes no name is in scope twice: what a statement declares is added to
a scope that does not have it. The induction is on the statement. -/
theorem Stmt.scope_nodup (scope : List String) (stmt : Stmt) (distinct : scope.Nodup)
    (apart : stmt.unclashing scope = true) :
    ∀ mention ∈ stmt.mentions scope, mention.scope.Nodup := by
  cases stmt with
  | declare | assign | evaluate | giveBack | rethrow | blank =>
    simp [or_imp, forall_and, distinct]
  | whenTrue condition body =>
    have inside := scope_nodup_of_mem _ body (block_nodup distinct apart) apart
    simpa [or_imp, forall_and, distinct] using inside
  | block body => exact scope_nodup_of_mem _ body (block_nodup distinct apart) apart
  | withResource name init body =>
    simp only [Stmt.unclashing, Bool.and_eq_true, decide_eq_true_eq] at apart
    have opened : (name :: scope).Nodup := List.nodup_cons.mpr ⟨apart.1, distinct⟩
    have inside := scope_nodup_of_mem _ body (block_nodup opened apart.2) apart.2
    refine List.forall_mem_append.mpr ⟨forall_mentions.mpr fun _ _ => opened, inside⟩
  | forEach name items body =>
    simp only [Stmt.unclashing, Bool.and_eq_true, decide_eq_true_eq] at apart
    have opened : (name :: scope).Nodup := List.nodup_cons.mpr ⟨apart.1, distinct⟩
    have inside := scope_nodup_of_mem _ body (block_nodup opened apart.2) apart.2
    refine List.forall_mem_append.mpr ⟨forall_mentions.mpr fun _ _ => distinct, inside⟩
  | guarded body handler cleanup =>
    simp only [Stmt.unclashing, Bool.and_eq_true] at apart
    obtain ⟨⟨inBody, inHandler⟩, inCleanup⟩ := apart
    have tried := scope_nodup_of_mem _ body (block_nodup distinct inBody) inBody
    have handled := handler_scope_nodup scope handler distinct inHandler
    have cleaned := cleanup_scope_nodup scope cleanup distinct inCleanup
    exact List.forall_mem_append.mpr ⟨List.forall_mem_append.mpr ⟨tried, handled⟩, cleaned⟩

/-- The same of the statements of a block, whose own locals are in scope. -/
theorem scope_nodup_of_mem (scope : List String) (body : List Stmt) (distinct : scope.Nodup)
    (apart : allUnclashing scope body = true) :
    ∀ mention ∈ mentionsIn scope body, mention.scope.Nodup := by
  cases body with
  | nil => simp
  | cons stmt body =>
    rw [allUnclashing, Bool.and_eq_true] at apart
    exact List.forall_mem_append.mpr ⟨Stmt.scope_nodup scope stmt distinct apart.1,
      scope_nodup_of_mem scope body distinct apart.2⟩

/-- The same of a handler. -/
theorem handler_scope_nodup (scope : List String) (handler : Option (CatchClause (List Stmt)))
    (distinct : scope.Nodup) (apart : handlerUnclashing scope handler = true) :
    ∀ mention ∈ handlerMentions scope handler, mention.scope.Nodup := by
  obtain _ | ⟨_, caught, handler⟩ := handler
  · simp
  · simp only [handlerUnclashing, Bool.and_eq_true, decide_eq_true_eq] at apart
    have opened : (caught :: scope).Nodup := List.nodup_cons.mpr ⟨apart.1, distinct⟩
    exact scope_nodup_of_mem _ handler (block_nodup opened apart.2) apart.2

/-- The same of a cleanup. -/
theorem cleanup_scope_nodup (scope : List String) (cleanup : Option (List Stmt))
    (distinct : scope.Nodup) (apart : cleanupUnclashing scope cleanup = true) :
    ∀ mention ∈ cleanupMentions scope cleanup, mention.scope.Nodup := by
  cases cleanup with
  | none => simp
  | some cleanup => exact scope_nodup_of_mem _ cleanup (block_nodup distinct apart) apart

end

end TypedClients.CSharp
