import TypedClients.Generation.Header
import TypedClients.Proofs.CSharp.Evaluation
import TypedClients.Proofs.Extraction
import TypedClients.Proofs.Text.Blank

/-!
# The headers that are sent

The template of a header is cut at its first colon when the code is generated, and the name and the
value are cut apart again when the code runs, at the first colon of the text that was put together
from both. The name has no colon in it, so the second cut is at the colon between them, whatever
colons there are in the value. It finds two pieces always, so that neither index is out of range.

A block sends one pair. The blocks of a method send one for each parameter that is a header, in the
order of the parameters.
-/

namespace TypedClients.Generation

open CSharp Extraction Text

/-! ## Running the blocks -/

/-- Where a request stands while its headers are added: the locals in scope, the innermost first,
and the pairs that were added. -/
structure HeaderState where
  locals : List (String × Datum)
  sent : List (String × String)
deriving Repr, DecidableEq

/-- The name and the value in a call that adds a header to the request. -/
def addedHeader? : Expr → Option (Expr × Expr)
  | .call (.member (.member (.name "request") "Headers") "TryAddWithoutValidation") []
      [name, value] => some (name, value)
  | _ => none

section Definitions

variable (barred : List Char) (values : FormattedValues)

mutual

/-- A statement that declares a local or adds a header, or a block of them. The locals of a block
are gone behind it. -/
def runHeader : Stmt → HeaderState → Except EvaluationFault HeaderState
  | .declare name init, state => do
    let value ← init.evaluate ⟨barred, values, state.locals⟩
    .ok { state with locals := (name, value) :: state.locals }
  | .evaluate expr, state =>
    match addedHeader? expr with
    | none => .error .meaningless
    | some (name, value) => do
      let first ← name.evaluate ⟨barred, values, state.locals⟩
      let second ← value.evaluate ⟨barred, values, state.locals⟩
      match first, second with
      | .text name, .text value => .ok { state with sent := state.sent ++ [(name, value)] }
      | _, _ => .error .meaningless
  | .block body, state => do
    let after ← runHeaders body state
    .ok { after with locals := state.locals }
  | _, _ => .error .meaningless

/-- Such statements one after the other. -/
def runHeaders : List Stmt → HeaderState → Except EvaluationFault HeaderState
  | [], state => .ok state
  | stmt :: body, state => do
    let after ← runHeader stmt state
    runHeaders body after

end

end Definitions

/-! ## What a template asks for -/

/-- The pair that a template asks for when the parameter is formatted to the given text. -/
structure AsksForHeader (template given name value : String) : Prop where
  /-- The name stands before the first colon. -/
  named : ∃ piece, FirstPiece ':' template.toList piece ∧ Trims piece name.toList
  /-- The value is the given text, or stands behind the first colon if nothing was given. -/
  valued : ∃ core, Trims given.toList core ∧
    (core ≠ [] ∧ value.toList = core ∨
      core = [] ∧ ∃ behind, BehindFirst ':' template.toList behind ∧ Trims behind value.toList)

/-- The value of a header: the trimmed text of the parameter, or the fallback when it is empty. -/
def sentValue (template given : String) : String :=
  if trimmed given = "" then headerFallback template else trimmed given

/-- The name and the value of a header are those that its template asks for. -/
theorem asksForHeader (template given : String) :
    AsksForHeader template given (headerName template) (sentValue template given) where
  named := ⟨_, beforeFirst_eq_iff.mp rfl, trims_ofList _⟩
  valued := by
    refine ⟨(trimmed given).toList, trims_ofList _, ?_⟩
    unfold sentValue
    split
    · rename_i empty
      exact Or.inr ⟨by simp [empty], _, afterFirst_eq_iff.mp rfl, trims_ofList _⟩
    · rename_i filled
      exact Or.inl ⟨mt String.toList_eq_nil_iff.mp filled, rfl⟩

/-- There is no colon in the name of a header. -/
theorem colon_not_mem_headerName (template : String) : ':' ∉ (headerName template).toList := by
  intro member
  have inside := (trims_ofList (beforeFirst ':' template.toList)).mem member
  exact mark_not_mem_before ':' template.toList inside

/-- The name of a header has no white space around it. -/
theorem trimmed_headerName (template : String) :
    trimmed (headerName template) = headerName template := by
  have again := (trims_ofList (beforeFirst ':' template.toList)).again
  rw [trimmed, headerName, trimBlanks_eq_iff.mpr again, String.ofList_toList]

/-! ## The expressions of a block -/

section Block

variable {scope : Scope} {parameter : Parameter} {template given : String}

/-- The text to which a parameter is formatted in a header. -/
def givenText (values : FormattedValues) (parameter : Parameter) : String :=
  values parameter.name parameter.formatSpecifier

/-- The pair of a header is the name, a colon, and the text of the parameter. -/
theorem evaluate_headerPair (escapable : ∀ c ∈ scope.barred, c ∈ escapedMarks)
    (plain : parameter.name.toList.head? ≠ some '@') (template : String) :
    (headerPair parameter template).evaluate scope =
      .ok (.text (headerName template ++ ":" ++ givenText scope.values parameter)) := by
  have front := InterpolationPart.readText?_text escapable scope.values
    (headerName template ++ ":")
  have hole : (InterpolationPart.hole (escapedIdentifier parameter.name)
      parameter.formatSpecifier).readText? scope.barred scope.values =
        some (givenText scope.values parameter) := by
    rw [InterpolationPart.readText?, denotedName_escapedIdentifier parameter.name plain]
    rfl
  simp [headerPair, Expr.evaluate, List.mapM_cons, front, hole, meaning, String.join]

/-- The pair is cut into the name and the text of the parameter, colons and all. -/
theorem evaluate_split (escapable : ∀ c ∈ scope.barred, c ∈ escapedMarks)
    (plain : parameter.name.toList.head? ≠ some '@') (template : String) :
    (Expr.callMember (headerPair parameter template) "Split"
        [.createArray [.literal (.char ':')], .literal (.int 2)]).evaluate scope =
      .ok (.texts [headerName template, givenText scope.values parameter]) := by
  have marks : evaluateAll scope [.createArray [.literal (.char ':')], .literal (.int 2)] =
      .ok [.chars [':'], .number 2] := rfl
  have cut := splitAtMost_two (colon_not_mem_headerName template)
    (givenText scope.values parameter).toList
  rw [evaluate_callMember (evaluate_headerPair escapable plain template) marks]
  simp [Datum.call, cut, meaning]

/-- A piece of the pair, trimmed. -/
theorem evaluate_piece {pieces : List String} {index : Nat} {piece : String}
    (declared : scope.locals.lookup "header" = some (.texts pieces))
    (inRange : pieces[index]? = some piece) :
    (Expr.callMember (.element (.name "header") index) "Trim" []).evaluate scope =
      .ok (.text (trimmed piece)) := by
  rw [evaluate_callMember (evaluate_element (evaluate_local declared) inRange) rfl]
  rfl

/-- The value that is sent is the local one, or the fallback when that is empty. -/
theorem evaluate_headerValue (escapable : ∀ c ∈ scope.barred, c ∈ escapedMarks)
    (declared : scope.locals.lookup "headerText" = some (.text (trimmed given))) :
    (headerValue template).evaluate scope = .ok (.text (sentValue template given)) := by
  have length : (Expr.member (.name "headerText") "Length").evaluate scope =
      .ok (.number (unitLength (trimmed given))) := by
    rw [Expr.evaluate, evaluate_local declared]
    rfl
  have condition : (Expr.binary (.member (.name "headerText") "Length") .greater
      (.literal (.int 0))).evaluate scope = .ok (.truth (0 < unitLength (trimmed given))) := by
    rw [Expr.evaluate, length, Expr.evaluate]
    rfl
  rw [headerValue, evaluate_conditional condition, evaluate_local declared,
    evaluate_text escapable, sentValue]
  by_cases empty : trimmed given = "" <;> simp [unitLength_pos_iff, empty]

end Block

/-! ## The blocks -/

section Run

variable {barred : List Char} {values : FormattedValues} {parameter : Parameter}
variable {template : String}

/-- A local is in scope behind its declaration. -/
theorem runHeader_declare {name : String} {init : Expr} {value : Datum} {state : HeaderState}
    (evaluated : init.evaluate ⟨barred, values, state.locals⟩ = .ok value) :
    runHeader barred values (.declare name init) state =
      .ok { state with locals := (name, value) :: state.locals } := by
  rw [runHeader, evaluated]
  rfl

/-- A call that adds a header adds the pair of its arguments. -/
theorem runHeader_add {call name value : Expr} {first second : String} {state : HeaderState}
    (adds : addedHeader? call = some (name, value))
    (named : name.evaluate ⟨barred, values, state.locals⟩ = .ok (.text first))
    (valued : value.evaluate ⟨barred, values, state.locals⟩ = .ok (.text second)) :
    runHeader barred values (.evaluate call) state =
      .ok { state with sent := state.sent ++ [(first, second)] } := by
  rw [runHeader, adds]
  change (name.evaluate _ >>= fun _ => _) = _
  rw [named]
  change (value.evaluate _ >>= fun _ => _) = _
  rw [valued]
  rfl

/-- Behind a statement that is run, the others are run where it ended. -/
theorem runHeaders_cons {stmt : Stmt} {body : List Stmt} {state after : HeaderState}
    (ran : runHeader barred values stmt state = .ok after) :
    runHeaders barred values (stmt :: body) state = runHeaders barred values body after := by
  rw [runHeaders, ran]
  rfl

/-- A block sends the one pair of its header, whatever was sent before. -/
theorem runHeader_headerBlock (escapable : ∀ c ∈ barred, c ∈ escapedMarks)
    (plain : parameter.name.toList.head? ≠ some '@') (template : String) (state : HeaderState) :
    runHeader barred values (headerBlock parameter template) state =
      .ok { state with sent := state.sent ++
        [(headerName template, sentValue template (givenText values parameter))] } := by
  obtain ⟨locals, sent⟩ := state
  have split : (Expr.callMember (headerPair parameter template) "Split"
      [.createArray [.literal (.char ':')], .literal (.int 2)]).evaluate ⟨barred, values, locals⟩ =
        .ok (.texts [headerName template, givenText values parameter]) :=
    evaluate_split escapable plain template
  rw [headerBlock, runHeader, runHeaders_cons (runHeader_declare split),
    runHeaders_cons (runHeader_declare (evaluate_piece rfl rfl)),
    runHeaders_cons (runHeader_add rfl (evaluate_piece rfl rfl)
      (evaluate_headerValue escapable rfl)), runHeaders, trimmed_headerName]
  rfl

/-- The pair that is sent for a parameter that is a header. -/
def sentHeader? (values : FormattedValues) (parameter : Parameter) : Option (String × String) :=
  parameter.binding.headerTemplate?.map fun template =>
    (headerName template, sentValue template (givenText values parameter))

/-- The blocks for some parameters send the pairs of those that are headers, in their order. The
induction is on the parameters: each block sends its pair behind those of the blocks before it. -/
theorem runHeaders_blocks (escapable : ∀ c ∈ barred, c ∈ escapedMarks)
    {parameters : List Parameter}
    (plain : ∀ parameter ∈ parameters, parameter.name.toList.head? ≠ some '@')
    (state : HeaderState) :
    runHeaders barred values (parameters.filterMap fun parameter =>
        parameter.binding.headerTemplate?.map (headerBlock parameter)) state =
      .ok { state with sent := state.sent ++ parameters.filterMap (sentHeader? values) } := by
  induction parameters generalizing state with
  | nil => simp [runHeaders]
  | cons parameter others inductionHypothesis =>
    obtain ⟨first, later⟩ := List.forall_mem_cons.mp plain
    cases header : parameter.binding.headerTemplate? with
    | none => simpa [header, sentHeader?] using inductionHypothesis later state
    | some template =>
      simp only [List.filterMap_cons, header, Option.map_some]
      rw [runHeaders_cons (runHeader_headerBlock escapable first template state),
        inductionHypothesis later]
      simp [sentHeader?, header]

end Run

/-- The block of a header sends exactly one pair, the one that the template asks for, whatever text
its parameter is formatted to. No index is out of range on the way. It makes no difference which of
the characters with escapes may not stand in a literal as they are. -/
theorem header_block_sends_pair {barred : List Char} (escapable : ∀ c ∈ barred, c ∈ escapedMarks)
    {parameter : Parameter} (plain : parameter.name.toList.head? ≠ some '@') (template : String)
    (values : FormattedValues) (state : HeaderState) :
    ∃ name value,
      AsksForHeader template (values parameter.name parameter.formatSpecifier) name value ∧
        runHeader barred values (headerBlock parameter template) state =
          .ok { state with sent := state.sent ++ [(name, value)] } :=
  ⟨_, _, asksForHeader template _, runHeader_headerBlock escapable plain template state⟩

/-- A template with white space around both of its parts, a second colon and two quotes. -/
def traceTemplate : String := " X-Trace : none: \"at all\" "

/-- A parameter that is sent by this template. -/
def traceParameter : Parameter where
  name := "trace"
  typeText := "string"
  binding := .header traceTemplate
  queryAlias := none
  formatSpecifier := none

/-- The header of the trace is sent as its template asks for. The value that is given has a colon in
it and white space around, of which only the colon is kept. -/
theorem trace_header_is_sent :
    (∃ name value, AsksForHeader traceTemplate " a:b\t" name value ∧
      runHeader ['\n', '\r'] (fun _ _ => " a:b\t") (headerBlock traceParameter traceTemplate)
          ⟨[], [("Accept", "*/*")]⟩ = .ok ⟨[], [("Accept", "*/*"), (name, value)]⟩) ∧
      runHeader ['\n', '\r'] (fun _ _ => " a:b\t") (headerBlock traceParameter traceTemplate)
          ⟨[], [("Accept", "*/*")]⟩ = .ok ⟨[], [("Accept", "*/*"), ("X-Trace", "a:b")]⟩ := by
  have escapable : ∀ c ∈ ['\n', '\r'], c ∈ escapedMarks := by simp [escapedMarks]
  have plain : traceParameter.name.toList.head? ≠ some '@' := by decide
  refine ⟨?_, by decide +kernel⟩
  exact header_block_sends_pair escapable plain traceTemplate (fun _ _ => " a:b\t")
    ⟨[], [("Accept", "*/*")]⟩

example :
    runHeader [] (fun _ _ => "  ") (headerBlock traceParameter traceTemplate) ⟨[], []⟩ =
      .ok ⟨[], [("X-Trace", "none: \"at all\"")]⟩ := by
  decide +kernel

/-- The blocks of an extracted method send the pairs of all its headers, in the order of its
parameters. -/
theorem runHeaders_headerBlocks {barred : List Char}
    (escapable : ∀ c ∈ barred, c ∈ escapedMarks) {declared : ClassDeclaration}
    {defaults : Defaults} {method : Method}
    (member : method ∈ (extractClient declared defaults).methods) (values : FormattedValues)
    (state : HeaderState) :
    runHeaders barred values (headerBlocks method) state =
      .ok { state with
        sent := state.sent ++ method.parameters.filterMap (sentHeader? values) } :=
  runHeaders_blocks escapable (extracted_unmarked member) state

end TypedClients.Generation
