import TypedClients.Generation.Url
import TypedClients.Proofs.Extraction
import TypedClients.Proofs.PathTemplate.Segmentation

/-!
# Which placeholders are warned about

Extraction warns about a placeholder when no parameter at all has its name. Generation leaves a
placeholder in the address as it is written when no route parameter has its name. These are two
questions, and they have one answer only because a parameter is a route parameter exactly when a
placeholder has its name.

What became of a placeholder is read off the address: each segment of the path is compared with
the part of the address at its place. Which segments a path has is not left to the splitter that
built the address. `Keeps` cuts the path by the rules of its segmentation, takes the name of each
placeholder by the rule for names, and walks along the parts of the address; the lists that are
computed are the only ones in this relation.
-/

namespace TypedClients

open CSharp Extraction PathTemplate

/-- Whether a warning is the one about a placeholder without a parameter, by its wording. -/
def Extraction.Warning.isUnmatched (warning : Warning) : Bool :=
  warning.message = "Route placeholder has no matching parameter; it stays literal."

namespace Generation

/-! ## What becomes of a placeholder -/

/-- The name of a placeholder whose part in the address is its own text. -/
def keptName? (place : Segment × InterpolationPart) : Option String :=
  place.1.name?.filter fun _ => place.2 = .text place.1.text

/-- The name of a placeholder whose part in the address is a hole for an identifier of its
name. -/
def filledName? (place : Segment × InterpolationPart) : Option String :=
  place.1.name?.filter fun name => place.2 = .hole (escapedIdentifier name) none

/-- The placeholders of a path that stand in an address as they are written, in order. A plain
literal has all that are in its text. -/
def keptPlaceholders (path : String) : Expr → List String
  | .text text => placeholders text
  | .interpolated parts => ((segments path).zip parts).filterMap keptName?
  | _ => []

/-- The placeholders of a path that an address has holes for, in order. -/
def filledPlaceholders (path : String) : Expr → List String
  | .interpolated parts => ((segments path).zip parts).filterMap filledName?
  | _ => []

/-- The placeholders that stand in the address of a method as they are written. A method that is
passed through has no address. -/
def keptIn (method : Method) : List String :=
  match method.endpoint? with
  | some endpoint =>
    keptPlaceholders endpoint.pathTemplate (urlExpr method endpoint.pathTemplate)
  | none => []

/-- The placeholders that the address of a method has holes for. -/
def filledIn (method : Method) : List String :=
  match method.endpoint? with
  | some endpoint =>
    filledPlaceholders endpoint.pathTemplate (urlExpr method endpoint.pathTemplate)
  | none => []

/-- Parts of an address, segment by segment: the names of the placeholders that stand there as they
are written, and of those that have a hole. What comes behind the last segment is the query
string. -/
inductive PartsKeep : List Segment → List InterpolationPart → List String → List String → Prop where
  | done (query : List InterpolationPart) : PartsKeep [] query [] []
  | literal {segments : List Segment} {parts : List InterpolationPart} {kept filled : List String}
      (text : String) (rest : PartsKeep segments parts kept filled) :
      PartsKeep (.literal text :: segments) (.text text :: parts) kept filled
  | kept {segments : List Segment} {parts : List InterpolationPart} {kept filled : List String}
      {inner name : String} (named : IsNameOf inner name)
      (rest : PartsKeep segments parts kept filled) :
      PartsKeep (.placeholder inner :: segments) (.text ("\x7b" ++ inner ++ "\x7d") :: parts)
        (name :: kept) filled
  | filled {segments : List Segment} {parts : List InterpolationPart} {kept filled : List String}
      {inner name : String} (named : IsNameOf inner name)
      (rest : PartsKeep segments parts kept filled) :
      PartsKeep (.placeholder inner :: segments) (.hole (escapedIdentifier name) none :: parts)
        kept (name :: filled)

/-- An address keeps some placeholders of a path and has holes for the others. The path as a plain
literal keeps them all. -/
inductive Keeps (path : String) : Expr → List String → List String → Prop where
  | plain {segments : List Segment} {names : List String}
      (cut : Segmentation path.toList segments)
      (named : List.Forall₂ IsNameOf (segments.filterMap Segment.inner?) names) :
      Keeps path (.text path) names []
  | interpolated {segments : List Segment} {parts : List InterpolationPart}
      {kept filled : List String} (cut : Segmentation path.toList segments)
      (along : PartsKeep segments parts kept filled) :
      Keeps path (.interpolated parts) kept filled

/-- A walk along the parts of an address finds what is read of each segment and its part: a literal
segment has a text, and a placeholder a hole or its own text. -/
theorem PartsKeep.eq {segments : List Segment} {parts : List InterpolationPart}
    {kept filled : List String} (along : PartsKeep segments parts kept filled) :
    kept = (segments.zip parts).filterMap keptName? ∧
      filled = (segments.zip parts).filterMap filledName? := by
  induction along with
  | done query => exact ⟨rfl, rfl⟩
  | literal text rest inductionHypothesis => exact inductionHypothesis
  | kept named rest inductionHypothesis =>
    obtain rfl := isNameOf_iff.mp named
    obtain ⟨rfl, rfl⟩ := inductionHypothesis
    constructor
    · simp [keptName?, Segment.name?, Segment.text, placeholderText]
    · simp [filledName?, Segment.name?]
  | filled named rest inductionHypothesis =>
    obtain rfl := isNameOf_iff.mp named
    obtain ⟨rfl, rfl⟩ := inductionHypothesis
    constructor
    · simp [keptName?, Segment.name?]
    · simp [filledName?, Segment.name?, Option.filter]

/-- There is only one list of names for what stands between braces. -/
theorem eq_map_of_named {inners names : List String} (named : List.Forall₂ IsNameOf inners names) :
    names = inners.map placeholderName := by
  induction named with
  | nil => rfl
  | cons named _ inductionHypothesis =>
    rw [isNameOf_iff.mp named, inductionHypothesis, List.map_cons]

/-- There is a walk along the parts that segments become, so that the placeholders that are kept and
those that are filled are two lists with one result each. -/
theorem exists_partsKeep (routeNames : List String) (query : List InterpolationPart)
    (segments : List Segment) : ∃ kept filled,
      PartsKeep segments (segments.map (segmentPart routeNames) ++ query) kept filled := by
  induction segments with
  | nil => exact ⟨[], [], .done query⟩
  | cons segment segments inductionHypothesis =>
    obtain ⟨kept, filled, along⟩ := inductionHypothesis
    cases segment with
    | literal text => exact ⟨kept, filled, .literal text along⟩
    | placeholder inner =>
      by_cases routed : routeNames.contains (placeholderName inner) = true
      · refine ⟨kept, placeholderName inner :: filled, ?_⟩
        rw [List.map_cons, List.cons_append, segmentPart, if_pos routed]
        exact .filled (isNameOf_iff.mpr rfl) along
      · refine ⟨placeholderName inner :: kept, filled, ?_⟩
        rw [List.map_cons, List.cons_append, segmentPart, if_neg routed]
        exact .kept (isNameOf_iff.mpr rfl) along

/-- A placeholder is kept exactly when its name is not among those that are put into the path. -/
theorem keptName?_segmentPart (routeNames : List String) (segment : Segment) :
    keptName? (segment, segmentPart routeNames segment) =
      segment.name?.filter fun name => !routeNames.contains name := by
  cases segment with
  | literal text => rfl
  | placeholder inner =>
    by_cases routed : placeholderName inner ∈ routeNames <;>
      simp [keptName?, segmentPart, Segment.name?, Segment.text, Option.filter, routed]

/-- A placeholder has a hole exactly when its name is among those that are put into the path. -/
theorem filledName?_segmentPart (routeNames : List String) (segment : Segment) :
    filledName? (segment, segmentPart routeNames segment) =
      segment.name?.filter fun name => routeNames.contains name := by
  cases segment with
  | literal text => rfl
  | placeholder inner =>
    by_cases routed : placeholderName inner ∈ routeNames <;>
      simp [filledName?, segmentPart, Segment.name?, Option.filter, routed]

/-- The parts behind those of the segments stand beside none of them. -/
theorem zip_segmentParts (routeNames : List String) (path : List Segment)
    (query : List InterpolationPart) :
    path.zip (path.map (segmentPart routeNames) ++ query) =
      path.map fun segment => (segment, segmentPart routeNames segment) := by
  induction path with
  | nil => rfl
  | cons segment path inductionHypothesis =>
    simp only [List.map_cons, List.cons_append, List.zip_cons_cons, inductionHypothesis]

/-- What is read of each segment and its part is read of the whole address, in the order of the
placeholders. -/
theorem filterMap_urlParts {method : Method} {name? : Segment × InterpolationPart → Option String}
    {chosen : String → Bool}
    (each : ∀ segment, name? (segment, segmentPart method.routeNames segment) =
      segment.name?.filter chosen) (path : String) :
    ((segments path).zip (urlParts method path)).filterMap name? =
      (placeholders path).filter chosen := by
  rw [urlParts, zip_segmentParts, List.filterMap_map, placeholders, List.filter_filterMap]
  exact congrArg (List.filterMap · _) (funext each)

/-- A method without parameters has none in its route. -/
theorem routeNames_of_isEmpty {method : Method} (empty : method.parameters.isEmpty = true) :
    method.routeNames = [] := by
  simp [Method.routeNames, List.isEmpty_iff.mp empty]

/-- What is kept of a path are the placeholders that no route parameter is named for, in both forms
of an address. -/
theorem keptPlaceholders_urlExpr (method : Method) (path : String) :
    keptPlaceholders path (urlExpr method path) =
      (placeholders path).filter fun name => !method.routeNames.contains name := by
  unfold urlExpr
  split
  · rename_i empty
    change placeholders path = _
    simp [routeNames_of_isEmpty empty]
  · exact filterMap_urlParts (keptName?_segmentPart method.routeNames) path

/-- What is filled in a path are the placeholders that a route parameter is named for. -/
theorem filledPlaceholders_urlExpr (method : Method) (path : String) :
    filledPlaceholders path (urlExpr method path) =
      (placeholders path).filter fun name => method.routeNames.contains name := by
  unfold urlExpr
  split
  · rename_i empty
    change [] = _
    simp [routeNames_of_isEmpty empty]
  · exact filterMap_urlParts (filledName?_segmentPart method.routeNames) path

/-- The placeholders that an address keeps, and those that it has holes for, are what is read of it,
and nothing else is. -/
theorem keeps_iff {method : Method} {endpoint : Endpoint} {kept filled : List String}
    (found : method.endpoint? = some endpoint) :
    Keeps endpoint.pathTemplate (urlExpr method endpoint.pathTemplate) kept filled ↔
      kept = keptIn method ∧ filled = filledIn method := by
  have names : List.Forall₂ IsNameOf ((segments endpoint.pathTemplate).filterMap Segment.inner?)
      (placeholders endpoint.pathTemplate) := (segments_canonical endpoint.pathTemplate).2
  have canonical (segments : List Segment) := (segments_canonical endpoint.pathTemplate).1 segments
  simp only [keptIn, filledIn, found]
  constructor
  · intro keeps
    generalize urlExpr method endpoint.pathTemplate = address at keeps ⊢
    cases keeps with
    | plain cut named =>
      obtain rfl := (canonical _).mp cut
      refine ⟨?_, rfl⟩
      exact (eq_map_of_named named).trans (eq_map_of_named names).symm
    | interpolated cut along =>
      obtain rfl := (canonical _).mp cut
      exact along.eq
  · rintro ⟨rfl, rfl⟩
    unfold urlExpr
    split
    · exact .plain ((canonical _).mpr rfl) names
    · obtain ⟨kept, filled, along⟩ := exists_partsKeep method.routeNames
        (queryParts "?" method.queryParameters) (segments endpoint.pathTemplate)
      obtain ⟨rfl, rfl⟩ := along.eq
      exact .interpolated ((canonical _).mpr rfl) along

/-- Each occurrence of a placeholder is either kept or filled, and no name is both, since it is the
names of the parameters that decide. -/
theorem kept_or_filled (method : Method) :
    (keptIn method ++ filledIn method).Perm (rolePlaceholders method.role) ∧
      (keptIn method).Disjoint (filledIn method) := by
  unfold keptIn filledIn
  cases role : method.role with
  | error reason => simp [Method.endpoint?, role, Except.toOption, rolePlaceholders]
  | ok endpoint =>
    rw [endpoint?_eq_some_iff.mpr role]
    simp only [keptPlaceholders_urlExpr, filledPlaceholders_urlExpr, rolePlaceholders]
    constructor
    · simpa using List.filter_append_perm (fun name => !method.routeNames.contains name)
        (placeholders endpoint.pathTemplate)
    · intro name kept filled
      have unrouted : name ∉ method.routeNames := by simpa using (List.mem_filter.mp kept).2
      exact unrouted (by simpa using (List.mem_filter.mp filled).2)

/-! ## The warnings -/

/-- Only the warning about a placeholder has its wording. A diagnostic begins with its code. -/
theorem isUnmatched_diagnosed (diagnostic : Diagnostic) :
    (Warning.diagnosed diagnostic).isUnmatched = false := by
  obtain ⟨className, methodName, ⟨parameters⟩⟩ := diagnostic
  simp [Warning.isUnmatched, Warning.message, Diagnostic.message, Diagnostic.code,
    String.ext_iff]

/-- No warning about the option for the serializer is about a placeholder. -/
theorem isUnmatched_serializationWarnings (owner : String) (option : Option ArgumentValue) :
    (serializationWarnings owner option).filter Warning.isUnmatched = [] := by
  unfold serializationWarnings
  split
  · rfl
  · split
    · simp [Warning.isUnmatched, Warning.message]
    · split <;> simp [Warning.isUnmatched, Warning.message]

/-- No warning about a return type is about a placeholder. -/
theorem isUnmatched_returnTypeWarnings (declared : MethodDeclaration) :
    (returnTypeWarnings declared).filter Warning.isUnmatched = [] := by
  unfold returnTypeWarnings
  split <;> simp [Warning.isUnmatched, Warning.message]

/-- In an extracted method, a placeholder has the name of some parameter exactly when it has the
name of a route parameter. -/
theorem named_iff_routed (options : ClassOptions) (declared : MethodDeclaration) {name : String}
    (placed : name ∈ rolePlaceholders (resolveRole declared)) :
    ((extractMethod options declared).parameters.any fun parameter => parameter.name == name) =
      (extractMethod options declared).routeNames.contains name := by
  rw [Bool.eq_iff_iff, List.any_eq_true, List.contains_iff_mem, Method.routeNames, List.mem_map]
  simp only [List.mem_filter, decide_eq_true_eq, beq_iff_eq, and_assoc]
  refine exists_congr fun parameter => and_congr_right fun member => ?_
  obtain ⟨original, _, rfl⟩ := List.mem_map.mp member
  refine ⟨fun named => ⟨?_, named⟩, And.right⟩
  rw [← named] at placed
  exact bindingOf_eq_route.mpr placed

/-- The placeholders that a method is warned about are those that stay in its address, one warning
for each time that one stands there. -/
theorem placeholderWarnings_eq (className : String) (options : ClassOptions)
    (declared : MethodDeclaration) :
    placeholderWarnings className (extractMethod options declared) =
      (keptIn (extractMethod options declared)).map
        (.placeholderUnmatched className declared.name) := by
  refine congrArg (List.map _) ?_
  have unnamed : ∀ name ∈ rolePlaceholders (resolveRole declared),
      (!(extractMethod options declared).parameters.any fun parameter => parameter.name == name) =
        !(extractMethod options declared).routeNames.contains name :=
    fun name placed => congrArg not (named_iff_routed options declared placed)
  rw [show (extractMethod options declared).role = resolveRole declared from rfl,
    List.filter_congr unnamed, keptIn]
  cases role : resolveRole declared with
  | error reason =>
    have absent : (extractMethod options declared).endpoint? = none := by
      rw [Method.endpoint?, extractMethod, role]
      rfl
    rw [absent]
    rfl
  | ok endpoint =>
    rw [endpoint?_eq_some_iff.mpr (show (extractMethod options declared).role = _ from role)]
    exact (keptPlaceholders_urlExpr _ _).symm

/-- Among the warnings of a method, those about placeholders are about the ones that stay in its
address. -/
theorem isUnmatched_methodWarnings (className : String) (options : ClassOptions)
    (declared : MethodDeclaration) :
    (methodWarnings className options declared).filter Warning.isUnmatched =
      (keptIn (extractMethod options declared)).map
        (.placeholderUnmatched className declared.name) := by
  have reported : ∀ found : Option Diagnostic,
      (found.map Warning.diagnosed).toList.filter Warning.isUnmatched = [] := by
    intro found
    cases found <;> simp [isUnmatched_diagnosed]
  have kept : ∀ names : List String,
      (names.map (Warning.placeholderUnmatched className declared.name)).filter
        Warning.isUnmatched = names.map (.placeholderUnmatched className declared.name) := by
    intro names
    refine List.filter_eq_self.mpr ?_
    simp [Warning.isUnmatched, Warning.message]
  simp only [methodWarnings, placeholderWarnings_eq, List.filter_append, reported, kept,
    isUnmatched_returnTypeWarnings, isUnmatched_serializationWarnings, List.nil_append,
    List.append_nil]

/-- The warnings of a class about placeholders are, in order and one an occurrence, those about the
placeholders that stand in the addresses of its methods as they are written. Each occurrence of a
placeholder either stands there or has a hole, and no placeholder with a hole is warned about. A
method that is passed through has no placeholders, and there is no warning about it. What stands in
an address is what the rules for cutting a path find there, in both forms of an address. -/
theorem warned_placeholders_are_kept (declared : ClassDeclaration) (defaults : Defaults) :
    (warnings declared defaults).filter Warning.isUnmatched =
        (extractClient declared defaults).methods.flatMap (fun method =>
          (keptIn method).map (.placeholderUnmatched declared.name method.name)) ∧
      (∀ method : Method,
        (keptIn method ++ filledIn method).Perm (rolePlaceholders method.role) ∧
          (keptIn method).Disjoint (filledIn method)) ∧
      ∀ (method : Method) (endpoint : Endpoint), method.endpoint? = some endpoint →
        ∀ kept filled,
          Keeps endpoint.pathTemplate (urlExpr method endpoint.pathTemplate) kept filled ↔
            kept = keptIn method ∧ filled = filledIn method := by
  refine ⟨?_, kept_or_filled, fun method endpoint found kept filled => keeps_iff found⟩
  rw [warnings, List.filter_append, isUnmatched_serializationWarnings, List.nil_append,
    List.filter_flatMap, extractClient, List.flatMap_map]
  exact congrArg (List.flatMap · _) (funext (isUnmatched_methodWarnings declared.name _))

/-- A class with a method that has an `@` before its parameter, with placeholders of its name and of
another, each twice. -/
def readingClass : ClassDeclaration where
  scope := ""
  imports := []
  name := "Library"
  attributes := []
  methods :=
    [⟨"ReadAsync", "Task",
        [⟨"Get", [⟨none, .literal "/{tome}/{class}/{tome:int}/{ class : alpha }"⟩]⟩],
        [⟨"@class", "string", []⟩]⟩]

/-- The placeholder without a parameter is warned about twice and stays twice. The other one has
two holes, and no warning. -/
theorem readingClass_warned :
    ((warnings readingClass .standard).filter Warning.isUnmatched).map Warning.fields =
        [[("class", "Library"), ("method", "ReadAsync"), ("placeholder", "tome")],
         [("class", "Library"), ("method", "ReadAsync"), ("placeholder", "tome")]] ∧
      ∃ method endpoint, (extractClient readingClass .standard).methods = [method] ∧
        method.endpoint? = some endpoint ∧
        Keeps endpoint.pathTemplate (urlExpr method endpoint.pathTemplate) ["tome", "tome"]
          ["class", "class"] := by
  obtain ⟨reported, -, found⟩ := warned_placeholders_are_kept readingClass .standard
  refine ⟨?_, _, _, rfl, rfl, (found _ _ rfl _ _).mpr (by decide +kernel)⟩
  rw [reported]
  decide +kernel

end Generation

end TypedClients
