import TypedClients.Proofs.CSharp.Identifier
import TypedClients.Proofs.CSharp.TextValue

/-!
# Locals and names

Which locals statements declare, where these are in scope, and where names stand, by the rules of
C#. A local is in scope in the whole block that declares it, in front of its declaration as well;
that of a `using` in the `using`, that of a loop in its body, and a caught exception in its
handler. A local must not have the name of another one, or of a parameter, that is in scope where
it is declared. A name behind a dot is looked up in what stands before it, and so is no name of
its own; neither is a reserved word.
-/

namespace TypedClients.CSharp

/-! ## Locals -/

/-- The locals that the statements of a block declare for that block. -/
@[simp]
def blockLocals : List Stmt → List String
  | [] => []
  | .declare name _ :: body => name :: blockLocals body
  | .assign .. :: body | .evaluate _ :: body | .giveBack _ :: body | .rethrow :: body
  | .whenTrue .. :: body | .withResource .. :: body | .forEach .. :: body | .block _ :: body
  | .guarded .. :: body | .blank :: body => blockLocals body

mutual

/-- The locals of a statement, those of the statements inside it included. -/
@[simp]
def Stmt.locals : Stmt → List String
  | .declare name _ => [name]
  | .withResource name _ body | .forEach name _ body => name :: localsOf body
  | .whenTrue _ body | .block body => localsOf body
  | .guarded body handler cleanup =>
    localsOf body ++ handlerLocals handler ++ cleanupLocals cleanup
  | .assign .. | .evaluate _ | .giveBack _ | .rethrow | .blank => []

/-- The locals of statements one after the other. -/
@[simp]
def localsOf : List Stmt → List String
  | [] => []
  | stmt :: body => stmt.locals ++ localsOf body

/-- The locals of a handler, the caught exception first. -/
@[simp]
def handlerLocals : Option (CatchClause (List Stmt)) → List String
  | none => []
  | some ⟨_, caught, handler⟩ => caught :: localsOf handler

/-- The locals of a cleanup. -/
@[simp]
def cleanupLocals : Option (List Stmt) → List String
  | none => []
  | some cleanup => localsOf cleanup

end

mutual

/-- Whether the locals of a statement have names of their own where they are declared. The scope
has the names in scope, the locals of the block of the statement included. -/
@[simp]
def Stmt.unclashing (scope : List String) : Stmt → Bool
  | .declare name _ => scope.count name = 1
  | .withResource name _ body | .forEach name _ body =>
    name ∉ scope && allUnclashing (blockLocals body ++ name :: scope) body
  | .whenTrue _ body | .block body => allUnclashing (blockLocals body ++ scope) body
  | .guarded body handler cleanup =>
    allUnclashing (blockLocals body ++ scope) body && handlerUnclashing scope handler &&
      cleanupUnclashing scope cleanup
  | .assign .. | .evaluate _ | .giveBack _ | .rethrow | .blank => true

/-- Whether the locals of the statements of a block, whose own locals are in scope, have names of
their own. -/
@[simp]
def allUnclashing (scope : List String) : List Stmt → Bool
  | [] => true
  | stmt :: body => stmt.unclashing scope && allUnclashing scope body

/-- Whether the caught exception and the locals of a handler have names of their own. -/
@[simp]
def handlerUnclashing (scope : List String) : Option (CatchClause (List Stmt)) → Bool
  | none => true
  | some ⟨_, caught, handler⟩ =>
    caught ∉ scope && allUnclashing (blockLocals handler ++ caught :: scope) handler

/-- Whether the locals of a cleanup have names of their own. -/
@[simp]
def cleanupUnclashing (scope : List String) : Option (List Stmt) → Bool
  | none => true
  | some cleanup => allUnclashing (blockLocals cleanup ++ scope) cleanup

end

/-! ## Names -/

/-- The name that is looked up for a path: what stands before its first dot, unless that is a
reserved word. -/
def pathNames (path : String) : List String :=
  let root := String.ofList (Text.beforeFirst '.' path.toList)
  if reservedWords.contains root then [] else [denotedName root]

/-- The name in a hole of an interpolated string. -/
def InterpolationPart.names : InterpolationPart → List String
  | .text _ => []
  | .hole name _ => pathNames name

mutual

/-- The names that are looked up for an expression. -/
@[simp]
def Expr.names : Expr → List String
  | .name path => pathNames path
  | .literal _ => []
  | .interpolated parts => parts.flatMap InterpolationPart.names
  | .call callee _ arguments => callee.names ++ namesOfAll arguments
  | .member object _ | .element object _ => object.names
  | .create _ arguments => namesOfAll arguments
  | .createArray items => namesOfAll items
  | .await operand | .not operand | .isNotNull operand => operand.names
  | .binary left _ right => left.names ++ right.names
  | .conditional condition yes no => condition.names ++ yes.names ++ no.names

/-- The names that are looked up for several expressions. -/
@[simp]
def namesOfAll : List Expr → List String
  | [] => []
  | expr :: others => expr.names ++ namesOfAll others

end

/-- The names in a call of a member are those in the object and in the arguments. The name of the
member is none of them, as it is looked up in the object. -/
@[simp] theorem Expr.names_callMember (object : Expr) (name : String) (arguments : List Expr) :
    (object.callMember name arguments).names = object.names ++ namesOfAll arguments := rfl

/-- The names in a call by name are that name, as far as it is looked up in the scope, and those in
the arguments. -/
@[simp] theorem Expr.names_callName (name : String) (arguments : List Expr) :
    (Expr.callName name arguments).names = pathNames name ++ namesOfAll arguments := rfl

/-- A text literal has no names. -/
@[simp] theorem Expr.names_text (value : String) : (Expr.text value).names = [] := rfl

/-- A place where a name stands, with the locals that are in scope there. -/
structure Mention where
  scope : List String
  name : String
deriving DecidableEq

/-- The name at a place is that of a local in scope there, or one of the names that are known. -/
def Mention.Bound (known : String → Prop) (mention : Mention) : Prop :=
  mention.name ∈ mention.scope ∨ known mention.name

/-- The places in an expression where a name stands. -/
def Expr.mentions (scope : List String) (expr : Expr) : List Mention :=
  expr.names.map (⟨scope, ·⟩)

mutual

/-- The places in a statement where a name stands. The scope has the locals in scope, those of the
block of the statement included. -/
@[simp]
def Stmt.mentions (scope : List String) : Stmt → List Mention
  | .declare _ init => init.mentions scope
  | .assign target value => target.mentions scope ++ value.mentions scope
  | .evaluate value | .giveBack value => value.mentions scope
  | .withResource name init body =>
    init.mentions (name :: scope) ++ mentionsIn (blockLocals body ++ name :: scope) body
  | .forEach name items body =>
    items.mentions scope ++ mentionsIn (blockLocals body ++ name :: scope) body
  | .whenTrue condition body =>
    condition.mentions scope ++ mentionsIn (blockLocals body ++ scope) body
  | .block body => mentionsIn (blockLocals body ++ scope) body
  | .guarded body handler cleanup =>
    mentionsIn (blockLocals body ++ scope) body ++ handlerMentions scope handler ++
      cleanupMentions scope cleanup
  | .rethrow | .blank => []

/-- The places in the statements of a block, whose own locals are in scope, where a name stands. -/
@[simp]
def mentionsIn (scope : List String) : List Stmt → List Mention
  | [] => []
  | stmt :: body => stmt.mentions scope ++ mentionsIn scope body

/-- The places in a handler where a name stands. -/
@[simp]
def handlerMentions (scope : List String) : Option (CatchClause (List Stmt)) → List Mention
  | none => []
  | some ⟨_, caught, handler⟩ => mentionsIn (blockLocals handler ++ caught :: scope) handler

/-- The places in a cleanup where a name stands. -/
@[simp]
def cleanupMentions (scope : List String) : Option (List Stmt) → List Mention
  | none => []
  | some cleanup => mentionsIn (blockLocals cleanup ++ scope) cleanup

end

/-! ## Methods -/

namespace MethodDef

/-- The names of the parameters of a method. -/
def parameterNames (definition : MethodDef) : List String :=
  definition.signature.params.map fun param => denotedName param.name

/-- Whether all parameters and locals of a method have names of their own where they are
declared. -/
def unclashing (definition : MethodDef) : Bool :=
  definition.parameterNames.Nodup &&
    allUnclashing (blockLocals definition.body ++ definition.parameterNames) definition.body

/-- No parameter of a method has the name of a local of its body, or of a field. -/
structure StandsApart (field : String) (definition : MethodDef) : Prop where
  locals : ∀ name ∈ definition.parameterNames, name ∉ localsOf definition.body
  field : field ∉ definition.parameterNames

/-- The places in the body of a method where a name stands. -/
def mentions (definition : MethodDef) : List Mention :=
  mentionsIn (blockLocals definition.body) definition.body

end MethodDef

/-! ## Blocks one after the other -/

/-- The locals of a block are those of its first statement and those of the others. -/
theorem blockLocals_cons (stmt : Stmt) (body : List Stmt) :
    blockLocals (stmt :: body) = blockLocals [stmt] ++ blockLocals body := by
  cases stmt <;> simp

/-- The locals that two lists of statements declare for their block stand in the order of the lists.
-/
@[simp] theorem blockLocals_append (first second : List Stmt) :
    blockLocals (first ++ second) = blockLocals first ++ blockLocals second := by
  induction first with
  | nil => rfl
  | cons stmt first inductionHypothesis =>
    rw [List.cons_append, blockLocals_cons, inductionHypothesis, blockLocals_cons stmt first,
      List.append_assoc]

/-- So do all locals, those of inner blocks included. -/
@[simp] theorem localsOf_append (first second : List Stmt) :
    localsOf (first ++ second) = localsOf first ++ localsOf second := by
  induction first with
  | nil => rfl
  | cons stmt first inductionHypothesis => simp [inductionHypothesis]

/-- In two lists of statements no local clashes with a scope around them when none does in either
list. -/
@[simp] theorem allUnclashing_append (scope : List String) (first second : List Stmt) :
    allUnclashing scope (first ++ second) =
      (allUnclashing scope first && allUnclashing scope second) := by
  induction first with
  | nil => rfl
  | cons stmt first inductionHypothesis => simp [inductionHypothesis, Bool.and_assoc]

/-- The locals of statements are those of each statement. -/
theorem mem_localsOf {body : List Stmt} {name : String} :
    name ∈ localsOf body ↔ ∃ stmt ∈ body, name ∈ stmt.locals := by
  induction body with
  | nil => simp
  | cons stmt body inductionHypothesis => simp [inductionHypothesis]

/-- Statements that are free of clashes one by one are so together. -/
theorem allUnclashing_of_forall {scope : List String} {body : List Stmt}
    (each : ∀ stmt ∈ body, stmt.unclashing scope = true) : allUnclashing scope body = true := by
  induction body with
  | nil => rfl
  | cons stmt body inductionHypothesis =>
    rw [allUnclashing, each stmt List.mem_cons_self, Bool.true_and]
    exact inductionHypothesis fun other inside => each other (List.mem_cons_of_mem _ inside)

/-- A block has no local when none of its statements declares one for it. -/
theorem blockLocals_eq_nil {body : List Stmt} (each : ∀ stmt ∈ body, blockLocals [stmt] = []) :
    blockLocals body = [] := by
  induction body with
  | nil => rfl
  | cons stmt body inductionHypothesis =>
    rw [blockLocals_cons, each stmt List.mem_cons_self, List.nil_append]
    exact inductionHypothesis fun other inside => each other (List.mem_cons_of_mem _ inside)

/-- The locals of a block are locals of its statements. The statements may have more, inside of
them. -/
theorem mem_localsOf_of_blockLocals {body : List Stmt} {name : String}
    (member : name ∈ blockLocals body) : name ∈ localsOf body := by
  induction body with
  | nil => cases member
  | cons stmt body inductionHypothesis =>
    rw [blockLocals_cons] at member
    rw [localsOf]
    rcases List.mem_append.mp member with own | rest
    · refine List.mem_append_left _ ?_
      cases stmt <;> simp_all
    · exact List.mem_append_right _ (inductionHypothesis rest)

/-! ## Names in scope -/

/-- Names that are in scope beyond others clash with locals that have these names, and change
nothing else. -/
theorem count_append_eq_one_iff {scope : List String} {name : String} (own : name ∈ scope)
    (extra : List String) :
    (scope ++ extra).count name = 1 ↔ scope.count name = 1 ∧ name ∉ extra := by
  have positive := List.count_pos_iff.mpr own
  rw [List.count_append, ← List.count_eq_zero]
  omega

mutual

/-- A statement clashes with further names in scope exactly where it has locals of these names.
The induction is on the statement; at every block the names that are added stand behind the
others. -/
theorem Stmt.unclashing_append_iff (scope extra : List String) (stmt : Stmt)
    (own : ∀ name ∈ blockLocals [stmt], name ∈ scope) :
    stmt.unclashing (scope ++ extra) = true ↔
      stmt.unclashing scope = true ∧ ∀ name ∈ stmt.locals, name ∉ extra := by
  cases stmt with
  | declare name init =>
    simpa using count_append_eq_one_iff (own name List.mem_cons_self) extra
  | assign | evaluate | giveBack | rethrow | blank => simp
  | whenTrue condition body | block body =>
    exact block_unclashing_append_iff scope extra body
  | withResource name init body | forEach name items body =>
    have inside := block_unclashing_append_iff (name :: scope) extra body
    have fresh : name ∉ scope ++ extra ↔ name ∉ scope ∧ name ∉ extra := by simp
    rw [List.cons_append] at inside
    simp only [Stmt.unclashing, Bool.and_eq_true, inside, fresh, Stmt.locals,
      List.forall_mem_cons, decide_eq_true_eq]
    exact and_and_and_comm
  | guarded body handler cleanup =>
    have tried := block_unclashing_append_iff scope extra body
    have handled := handlerUnclashing_append_iff scope extra handler
    have cleaned := cleanupUnclashing_append_iff scope extra cleanup
    simp only [Stmt.unclashing, Bool.and_eq_true, tried, handled, cleaned, Stmt.locals,
      List.forall_mem_append]
    exact (and_congr_left' and_and_and_comm).trans and_and_and_comm

/-- The same of a block, whose locals are in scope in front of all others. -/
theorem block_unclashing_append_iff (scope extra : List String) (body : List Stmt) :
    allUnclashing (blockLocals body ++ (scope ++ extra)) body = true ↔
      allUnclashing (blockLocals body ++ scope) body = true ∧
        ∀ name ∈ localsOf body, name ∉ extra := by
  rw [← List.append_assoc]
  exact allUnclashing_append_iff (blockLocals body ++ scope) extra body
    fun name member => List.mem_append_left _ member

/-- The same of statements whose block has its locals in scope: further names in scope are in the
way of a declaration only where they are declared again. -/
theorem allUnclashing_append_iff (scope extra : List String) (body : List Stmt)
    (own : ∀ name ∈ blockLocals body, name ∈ scope) :
    allUnclashing (scope ++ extra) body = true ↔
      allUnclashing scope body = true ∧ ∀ name ∈ localsOf body, name ∉ extra := by
  cases body with
  | nil => simp
  | cons stmt body =>
    rw [blockLocals_cons] at own
    have first := Stmt.unclashing_append_iff scope extra stmt fun name declared =>
      own name (List.mem_append_left _ declared)
    have rest := allUnclashing_append_iff scope extra body fun name member =>
      own name (List.mem_append_right _ member)
    simp only [allUnclashing, Bool.and_eq_true, first, rest, localsOf, List.forall_mem_append]
    exact and_and_and_comm

/-- The same of a handler, whose first local is the exception that it catches. -/
theorem handlerUnclashing_append_iff (scope extra : List String)
    (handler : Option (CatchClause (List Stmt))) :
    handlerUnclashing (scope ++ extra) handler = true ↔
      handlerUnclashing scope handler = true ∧ ∀ name ∈ handlerLocals handler, name ∉ extra := by
  obtain _ | ⟨_, caught, handler⟩ := handler
  · simp
  · have handled := block_unclashing_append_iff (caught :: scope) extra handler
    have fresh : caught ∉ scope ++ extra ↔ caught ∉ scope ∧ caught ∉ extra := by simp
    rw [List.cons_append] at handled
    simp only [handlerUnclashing, Bool.and_eq_true, handled, fresh, handlerLocals,
      List.forall_mem_cons, decide_eq_true_eq]
    exact and_and_and_comm

/-- The same of a cleanup. -/
theorem cleanupUnclashing_append_iff (scope extra : List String) (cleanup : Option (List Stmt)) :
    cleanupUnclashing (scope ++ extra) cleanup = true ↔
      cleanupUnclashing scope cleanup = true ∧ ∀ name ∈ cleanupLocals cleanup, name ∉ extra := by
  cases cleanup with
  | none => simp
  | some cleanup => exact block_unclashing_append_iff scope extra cleanup

end

/-- What holds of the places in an expression where a name stands holds of its names. -/
@[simp] theorem forall_mentions {scope : List String} {expr : Expr} {property : Mention → Prop} :
    (∀ mention ∈ expr.mentions scope, property mention) ↔
      ∀ name ∈ expr.names, property ⟨scope, name⟩ := by
  simp [Expr.mentions]

mutual

/-- In a statement nothing is in scope but what was in scope before and locals of the statement.
The induction is on the statement. -/
theorem Stmt.scope_subset (scope : List String) (stmt : Stmt) :
    ∀ mention ∈ stmt.mentions scope, mention.scope ⊆ scope ++ stmt.locals := by
  cases stmt with
  | declare | assign | evaluate | giveBack | rethrow | blank => simp [or_imp, forall_and]
  | whenTrue condition body =>
    have here : ∀ mention ∈ condition.mentions scope, mention.scope ⊆ scope ++ localsOf body := by
      simp
    exact List.forall_mem_append.mpr ⟨here, block_scope_subset scope body⟩
  | block body => exact block_scope_subset scope body
  | withResource item init body =>
    have opened : item :: scope ⊆ scope ++ item :: localsOf body :=
      List.cons_subset.mpr ⟨by simp, List.subset_append_left _ _⟩
    have here : ∀ mention ∈ init.mentions (item :: scope),
        mention.scope ⊆ scope ++ item :: localsOf body :=
      forall_mentions.mpr fun _ _ => opened
    have inside := block_scope_subset (item :: scope) body
    refine List.forall_mem_append.mpr ⟨here, ?_⟩
    intro mention member
    exact List.Subset.trans (inside mention member) List.perm_middle.symm.subset
  | forEach item items body =>
    have here : ∀ mention ∈ items.mentions scope,
        mention.scope ⊆ scope ++ item :: localsOf body := by
      simp
    have inside := block_scope_subset (item :: scope) body
    refine List.forall_mem_append.mpr ⟨here, ?_⟩
    intro mention member
    exact List.Subset.trans (inside mention member) List.perm_middle.symm.subset
  | guarded body handler cleanup =>
    have tried := block_scope_subset scope body
    have handled := handler_scope_subset scope handler
    have cleaned := cleanup_scope_subset scope cleanup
    intro mention member name inScope
    simp only [Stmt.mentions, Stmt.locals, List.mem_append] at member ⊢
    rcases member with (atBody | atHandler) | atCleanup
    · have among := tried mention atBody inScope
      simp only [List.mem_append] at among
      grind
    · have among := handled mention atHandler inScope
      simp only [List.mem_append] at among
      grind
    · have among := cleaned mention atCleanup inScope
      simp only [List.mem_append] at among
      grind

/-- The same of a block, which puts its own locals in scope first. -/
theorem block_scope_subset (scope : List String) (body : List Stmt) :
    ∀ mention ∈ mentionsIn (blockLocals body ++ scope) body,
      mention.scope ⊆ scope ++ localsOf body := by
  intro mention member
  refine List.Subset.trans
    (scope_subset_of_mem (blockLocals body ++ scope) body mention member) ?_
  refine List.append_subset.mpr ⟨List.append_subset.mpr ⟨?_, ?_⟩, ?_⟩
  · exact fun name own => List.mem_append_right _ (mem_localsOf_of_blockLocals own)
  · exact List.subset_append_left _ _
  · exact List.subset_append_right _ _

/-- The same of statements whose block has its locals in scope. Nothing is in scope that was not
there before or is declared in them. -/
theorem scope_subset_of_mem (scope : List String) (body : List Stmt) :
    ∀ mention ∈ mentionsIn scope body, mention.scope ⊆ scope ++ localsOf body := by
  cases body with
  | nil => simp
  | cons stmt body =>
    have first := Stmt.scope_subset scope stmt
    have rest := scope_subset_of_mem scope body
    intro mention member name inScope
    rw [localsOf, ← List.append_assoc]
    rcases List.mem_append.mp member with here | there
    · exact List.mem_append_left _ (first mention here inScope)
    · rcases List.mem_append.mp (rest mention there inScope) with outer | inner
      · exact List.mem_append_left _ (List.mem_append_left _ outer)
      · exact List.mem_append_right _ inner

/-- The same of a handler. -/
theorem handler_scope_subset (scope : List String) (handler : Option (CatchClause (List Stmt))) :
    ∀ mention ∈ handlerMentions scope handler, mention.scope ⊆ scope ++ handlerLocals handler := by
  obtain _ | ⟨_, caught, handler⟩ := handler
  · simp
  · intro mention member
    exact List.Subset.trans (block_scope_subset (caught :: scope) handler mention member)
      List.perm_middle.symm.subset

/-- The same of a cleanup. -/
theorem cleanup_scope_subset (scope : List String) (cleanup : Option (List Stmt)) :
    ∀ mention ∈ cleanupMentions scope cleanup, mention.scope ⊆ scope ++ cleanupLocals cleanup := by
  cases cleanup with
  | none => simp
  | some cleanup => exact block_scope_subset scope cleanup

end

/-- The parameters of a method clash with its locals exactly where they have names in common. That
the locals do not clash among themselves is asked of the body alone. -/
theorem MethodDef.unclashing_iff {definition : MethodDef}
    (distinct : definition.parameterNames.Nodup)
    (apart : allUnclashing (blockLocals definition.body) definition.body = true) :
    definition.unclashing = true ↔
      ∀ name ∈ definition.parameterNames, name ∉ localsOf definition.body := by
  have added := allUnclashing_append_iff (blockLocals definition.body) definition.parameterNames
    definition.body fun _ member => member
  simp only [unclashing, distinct, decide_true, Bool.true_and, added, apart, true_and]
  exact ⟨fun free name declared shared => free name shared declared,
    fun free name shared declared => free name declared shared⟩

/-- A parameter with a name of its own is what that name denotes wherever it stands. -/
theorem MethodDef.StandsApart.not_mem_scope {field : String} {definition : MethodDef}
    (apart : definition.StandsApart field) : ∀ mention ∈ definition.mentions,
      mention.name ∈ definition.parameterNames → mention.name ∉ mention.scope := by
  intro mention stands named inScope
  refine apart.locals mention.name named ?_
  have among := scope_subset_of_mem _ definition.body mention stands inScope
  rcases List.mem_append.mp among with own | inner
  · exact mem_localsOf_of_blockLocals own
  · exact inner

/-! ## Names of identifiers -/

/-- No name has a dot in it. -/
theorem NameAlphabet.IsName.dot_not_mem {alphabet : NameAlphabet} {name : List Char}
    (named : alphabet.IsName name) : '.' ∉ name := by
  cases named with
  | @intro first others starting continuing =>
    intro member
    rcases List.mem_cons.mp member with rfl | behind
    · simp [alphabet.starts_ascii] at starting
    · have dot := continuing '.' behind
      simp [alphabet.continues_ascii] at dot

/-- No identifier has a dot in it. -/
theorem NameAlphabet.IsIdentifier.dot_not_mem {alphabet : NameAlphabet} {name : List Char}
    (identified : alphabet.IsIdentifier name) : '.' ∉ name := by
  cases identified with
  | plain named => exact named.dot_not_mem
  | marked named => simpa using named.dot_not_mem

/-- A name as it is written in code is no reserved word: one that would be has an `@` in front, and
no reserved word has. -/
theorem escapedIdentifier_not_reserved (name : String) :
    escapedIdentifier name ∉ reservedWords := by
  have unmarked : ∀ word ∈ reservedWords, word.toList.head? ≠ some '@' := by decide +kernel
  unfold escapedIdentifier
  split
  · intro member
    have other := unmarked _ member
    rw [String.toList_append] at other
    exact other rfl
  · rename_i free
    simpa using free

/-- The name that is looked up for a name as it is written in code is that name, with the `@` taken
away that was put in front. -/
theorem pathNames_escapedIdentifier {alphabet : NameAlphabet} {name : String}
    (named : alphabet.IsName name.toList) : pathNames (escapedIdentifier name) = [name] := by
  have dotless : '.' ∉ (escapedIdentifier name).toList := named.escapedIdentifier.dot_not_mem
  have root : Text.beforeFirst '.' (escapedIdentifier name).toList =
      (escapedIdentifier name).toList := by
    apply List.takeWhile_eq_self_iff.mpr
    intro c member
    simpa using ne_of_mem_of_not_mem member dotless
  simp [pathNames, root, escapedIdentifier_not_reserved,
    denotedName_escapedIdentifier name named.head?_ne_at]

/-- A name that is looked up for a path begins as the path does, unless the path begins with a mark.
-/
theorem head?_of_pathNames {path name : String} {first : Char}
    (begins : path.toList.head? = some first) (inside : first ≠ '.') (unmarked : first ≠ '@')
    (looked : name ∈ pathNames path) : name.toList.head? = some first := by
  obtain ⟨rest, spelled⟩ : ∃ rest, path.toList = first :: rest := List.head?_eq_some_iff.mp begins
  have root : Text.beforeFirst '.' path.toList = first :: Text.beforeFirst '.' rest := by
    simp [Text.beforeFirst, spelled, inside]
  simp only [pathNames, root] at looked
  split at looked
  · cases looked
  · obtain rfl := List.mem_singleton.mp looked
    simp [denotedName, Text.withoutStart, Text.behind?, unmarked.symm]

end TypedClients.CSharp
