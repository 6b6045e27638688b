import TypedClients.Generation.Url
import TypedClients.Proofs.CSharp.TextValue
import TypedClients.Proofs.PathTemplate

/-!
# The meaning of an address

Whatever texts the parameters of a method are formatted to, the expression for its address has
the text that the path template asks for. Each placeholder that names a route parameter is
replaced by the value of that parameter, every other character stays, and the query string holds
a pair for each query parameter in their order. The plain literal of a method without parameters
and the interpolated string of all others agree on this.

The meaning of a template is given by reading it once from left to right. It does not go through
the segments of which the expression is built.
-/

namespace TypedClients.Generation

open CSharp PathTemplate

/-- The text in place of a placeholder: the unformatted value of the route parameter of its name,
or the placeholder as it is written when there is no such parameter. -/
def placeholderValue (method : Method) (values : FormattedValues) (inner : List Char) :
    List Char :=
  match method.parameters.find? fun parameter => parameter.binding = .route &&
      parameter.name = placeholderName (String.ofList inner) with
  | some parameter => (values parameter.name none).toList
  | none => '{' :: (inner ++ ['}'])

/-- A template with its placeholders replaced, read character by character. Behind a `{` the
characters are kept until the first `}` shows that they were a placeholder; at the end of the
template they are literal text after all. -/
def filledPath (value : List Char → List Char) : Option (List Char) → List Char → List Char
  | none, [] => []
  | none, c :: rest =>
    if c = '{' then filledPath value (some []) rest else c :: filledPath value none rest
  | some inner, [] => '{' :: inner
  | some inner, c :: rest =>
    if c = '}' then value inner ++ filledPath value none rest
    else filledPath value (some (inner ++ [c])) rest

/-- The key and the formatted value of a query parameter. -/
def queryPair (values : FormattedValues) (parameter : Parameter) : String :=
  parameter.queryAlias.getD parameter.name ++ "=" ++
    values parameter.name parameter.formatSpecifier

/-- The query string: nothing without query parameters, else a `?` and the pairs with a `&`
between each two. -/
def queryString (values : FormattedValues) (parameters : List Parameter) : String :=
  if parameters.isEmpty then ""
  else "?" ++ String.intercalate "&" (parameters.map (queryPair values))

/-- The address that a method asks for with a path template. -/
def addressOf (method : Method) (path : String) (values : FormattedValues) : String :=
  String.ofList (filledPath (placeholderValue method values) none path.toList) ++
    queryString values (method.parameters.filter fun parameter => parameter.binding = .query)

/-- Text without a `{` is read as it stands. -/
theorem filledPath_literal (value : List Char → List Char) (text rest : List Char)
    (plain : '{' ∉ text) :
    filledPath value none (text ++ rest) = text ++ filledPath value none rest := by
  induction text with
  | nil => rfl
  | cons c text inductionHypothesis =>
    have ⟨other, others⟩ : '{' ≠ c ∧ '{' ∉ text := by simpa using plain
    simp [filledPath, Ne.symm other, inductionHypothesis others]

/-- Behind a `{`, the text up to the first `}` is one placeholder. -/
theorem filledPath_placeholder (value : List Char → List Char) (kept inner rest : List Char)
    (closed : '}' ∉ inner) :
    filledPath value (some kept) (inner ++ '}' :: rest) =
      value (kept ++ inner) ++ filledPath value none rest := by
  induction inner generalizing kept with
  | nil => simp [filledPath]
  | cons c inner inductionHypothesis =>
    have ⟨other, others⟩ : '}' ≠ c ∧ '}' ∉ inner := by simpa using closed
    simp [filledPath, Ne.symm other, inductionHypothesis _ others]

/-- Behind a `{` that is never closed, everything is literal text. -/
theorem filledPath_unclosed (value : List Char → List Char) (kept behind : List Char)
    (unclosed : '}' ∉ behind) :
    filledPath value (some kept) behind = '{' :: (kept ++ behind) := by
  induction behind generalizing kept with
  | nil => simp [filledPath]
  | cons c behind inductionHypothesis =>
    have ⟨other, others⟩ : '}' ≠ c ∧ '}' ∉ behind := by simpa using unclosed
    simp [filledPath, Ne.symm other, inductionHypothesis _ others]

/-- A path without a placeholder is read as it stands. -/
theorem filledPath_of_none (value : List Char → List Char) {path : List Char}
    (absent : firstPlaceholder? path = none) : filledPath value none path = path := by
  rcases firstPlaceholder_none absent with plain | ⟨before, behind, rfl, plain, unclosed⟩
  · simpa [filledPath] using filledPath_literal value path [] plain
  · rw [filledPath_literal value before _ plain]
    simp [filledPath, filledPath_unclosed value [] behind unclosed]

/-- A path with a placeholder is read as the text before it, the value of the placeholder, and
what is left. -/
theorem filledPath_of_some (value : List Char → List Char) {path before inner rest : List Char}
    (found : firstPlaceholder? path = some (before, inner, rest)) :
    filledPath value none path = before ++ (value inner ++ filledPath value none rest) := by
  obtain ⟨rfl, plain, closed⟩ := firstPlaceholder_parts found
  rw [filledPath_literal value before _ plain]
  simp [filledPath, filledPath_placeholder value [] inner rest closed]

/-- The route parameter of a name is found exactly when the name is one of those that are put into
the path, and then has that name. -/
theorem routeParameter_found (method : Method) (name : String) :
    match method.parameters.find? fun parameter => parameter.binding = .route &&
        parameter.name = name with
    | some parameter => parameter ∈ method.parameters ∧ parameter.name = name ∧
        name ∈ method.routeNames
    | none => name ∉ method.routeNames := by
  split
  · rename_i parameter found
    have member := List.mem_of_find?_eq_some found
    have ⟨bound, named⟩ : parameter.binding = .route ∧ parameter.name = name := by
      simpa using List.find?_some found
    refine ⟨member, named, ?_⟩
    simp only [Method.routeNames, List.mem_map, List.mem_filter]
    exact ⟨parameter, ⟨member, by simpa using bound⟩, named⟩
  · rename_i absent
    simp only [Method.routeNames, List.mem_map, List.mem_filter, not_exists, not_and]
    rintro parameter ⟨member, bound⟩ named
    have refused := List.find?_eq_none.mp absent parameter member
    simp [named, of_decide_eq_true bound] at refused

/-- The part for a placeholder has the text that takes its place, whether it became a hole for a
parameter or is kept as written. That no name begins with `@` makes the name of a placeholder and
that of its parameter the same text. -/
theorem textOf_placeholder (method : Method) (values : FormattedValues)
    (plain : ∀ parameter ∈ method.parameters, parameter.name.toList.head? ≠ some '@')
    (inner : List Char) :
    (segmentPart method.routeNames (.placeholder (String.ofList inner))).textOf values =
      String.ofList (placeholderValue method values inner) := by
  have found := routeParameter_found method (placeholderName (String.ofList inner))
  unfold placeholderValue
  split at found
  · rename_i parameter _
    obtain ⟨member, named, bound⟩ := found
    have spelled := denotedName_escapedIdentifier parameter.name (plain parameter member)
    simp only [segmentPart, List.contains_eq_mem, bound, decide_true, if_true]
    simp [InterpolationPart.textOf, ← named, spelled]
  · simp only [segmentPart, List.contains_eq_mem, found, decide_false]
    simp [InterpolationPart.textOf, placeholderText, String.ext_iff]

/-- The part for literal text has that text. -/
theorem textOf_literalSegment (routes : List String) (values : FormattedValues)
    (text : List Char) :
    String.join ((literalSegment text).map fun segment =>
      (segmentPart routes segment).textOf values) = String.ofList text := by
  cases text with
  | nil => rfl
  | cons c text => simp [literalSegment, segmentPart, InterpolationPart.textOf]

/-- The parts for the segments of a path have the text of the path with its placeholders
replaced. The induction follows the cuts of the path at its placeholders. -/
theorem textOf_segmentsOf (method : Method) (values : FormattedValues)
    (plain : ∀ parameter ∈ method.parameters, parameter.name.toList.head? ≠ some '@')
    (path : List Char) :
    String.join ((segmentsOf path).map fun segment =>
      (segmentPart method.routeNames segment).textOf values) =
        String.ofList (filledPath (placeholderValue method values) none path) := by
  induction path using segmentsOf.induct with
  | case1 path absent =>
    rw [segmentsOf_of_none absent, textOf_literalSegment, filledPath_of_none _ absent]
  | case2 path before inner rest found inductionHypothesis =>
    rw [segmentsOf_of_some found, filledPath_of_some _ found]
    simp only [List.map_append, List.map_cons, String.join_append, String.join_cons,
      textOf_literalSegment, textOf_placeholder method values plain, inductionHypothesis,
      String.ofList_append]

/-- The parts of the query string have its pairs as their text, the first behind the given mark
and each other behind a `&`. -/
theorem textOf_queryParts (values : FormattedValues) (mark : String) (parameter : Parameter)
    (others : List Parameter)
    (plain : ∀ query ∈ parameter :: others, query.name.toList.head? ≠ some '@') :
    String.join ((queryParts mark (parameter :: others)).map (·.textOf values)) =
      mark ++ String.intercalate "&" ((parameter :: others).map (queryPair values)) := by
  have first : denotedName (escapedIdentifier parameter.name) = parameter.name :=
    denotedName_escapedIdentifier parameter.name (plain parameter List.mem_cons_self)
  induction others generalizing mark parameter with
  | nil =>
    simp [queryParts, InterpolationPart.textOf, first, queryPair, Parameter.queryKey,
      String.append_assoc]
  | cons next others inductionHypothesis =>
    have later : ∀ query ∈ next :: others, query.name.toList.head? ≠ some '@' :=
      fun query member => plain query (List.mem_cons_of_mem parameter member)
    have rest := inductionHypothesis "&" next later
      (denotedName_escapedIdentifier next.name (later next List.mem_cons_self))
    rw [queryParts]
    simp only [List.map_cons, String.join_cons, rest, String.intercalate_cons_cons]
    simp [InterpolationPart.textOf, first, queryPair, Parameter.queryKey, String.append_assoc]

/-- The interpolated string for an address has the text that the template asks for: the filled path,
and behind it the query string, whose parts are one for each parameter. -/
theorem textOf_urlParts (method : Method) (path : String) (values : FormattedValues)
    (plain : ∀ parameter ∈ method.parameters, parameter.name.toList.head? ≠ some '@') :
    String.join ((urlParts method path).map (·.textOf values)) =
      addressOf method path values := by
  have query : String.join ((queryParts "?" method.queryParameters).map (·.textOf values)) =
      queryString values method.queryParameters := by
    cases selected : method.queryParameters with
    | nil => rfl
    | cons parameter others =>
      have named : ∀ query ∈ parameter :: others, query.name.toList.head? ≠ some '@' := by
        intro query member
        rw [← selected] at member
        exact plain query (List.mem_filter.mp member).1
      rw [textOf_queryParts values "?" parameter others named]
      rfl
  unfold urlParts addressOf
  rw [List.map_append, String.join_append, query, List.map_map]
  exact congrArg (· ++ _) (textOf_segmentsOf method values plain path.toList)

/-- When every placeholder is replaced by itself, the template stays as it is. The second half is
about a template of which the part behind a `{` has been kept. -/
theorem filledPath_unchanged (value : List Char → List Char) (path : List Char)
    (same : ∀ inner, value inner = '{' :: (inner ++ ['}'])) :
    filledPath value none path = path ∧
      ∀ kept, filledPath value (some kept) path = '{' :: (kept ++ path) := by
  induction path with
  | nil => simp [filledPath]
  | cons c path inductionHypothesis =>
    obtain ⟨outside, inside⟩ := inductionHypothesis
    constructor
    · by_cases opened : c = '{'
      · simp [filledPath, opened, inside]
      · simp [filledPath, opened, outside]
    · intro kept
      by_cases closed : c = '}'
      · simp [filledPath, closed, same, outside]
      · simp [filledPath, closed, inside]

/-- A method without parameters has its path as its address: no placeholder has a value, and
there is no query string. -/
theorem addressOf_without_parameters (method : Method) (path : String)
    (values : FormattedValues) (empty : method.parameters = []) :
    addressOf method path values = path := by
  have same : ∀ inner, placeholderValue method values inner = '{' :: (inner ++ ['}']) := by
    intro inner
    simp [placeholderValue, empty]
  simp [addressOf, (filledPath_unchanged _ path.toList same).1, empty, queryString]

/-- The expression for an address has the text that its template asks for, whatever the values
of the parameters are formatted to. The interpolated string would have this text for every
method, so that the plain literal of a method without parameters changes nothing. -/
theorem address_meaning (method : Method) (path : String) (values : FormattedValues)
    (plain : ∀ parameter ∈ method.parameters, parameter.name.toList.head? ≠ some '@') :
    (urlExpr method path).textOf? values = some (addressOf method path values) ∧
      (Expr.interpolated (urlParts method path)).textOf? values =
        some (addressOf method path values) := by
  have general : (Expr.interpolated (urlParts method path)).textOf? values =
      some (addressOf method path values) :=
    congrArg some (textOf_urlParts method path values plain)
  refine ⟨?_, general⟩
  unfold urlExpr
  split
  · rename_i empty
    rw [addressOf_without_parameters method path values (List.isEmpty_iff.mp empty)]
    rfl
  · exact general

/-- A method with two route parameters, one of them a reserved word, and two query parameters. -/
def listingMethod : Method where
  name := "ListAsync"
  parameters :=
    [⟨"class", "string", .route, none, none⟩, ⟨"page", "int", .query, some "p", none⟩,
     ⟨"id", "int", .route, none, some "D4"⟩, ⟨"since", "DateTime", .query, none, some "yyyy"⟩]
  role := .error .noVerbAttribute
  throwsOnFailure := false
  serializer := .newtonsoft
  slowCallThreshold := 0
  contentSuppressed := false

/-- A template with a repeated, a constrained, an unknown and an open placeholder. -/
def listingPath : String := "/{class}/{ id :int}/{page}/{id}/\x7b"

/-- Values that show which parameter and which format they are for. -/
def listingValues : FormattedValues :=
  fun name format => name.toUpper ++ format.getD ""

/-- The address of the listing is built from the values by name and format. The placeholder that
comes twice is filled twice, the unknown one and the open brace stay as they are, and the parameters
that are left form the query string. -/
theorem address_of_listing :
    (∀ parameter ∈ listingMethod.parameters, parameter.name.toList.head? ≠ some '@') ∧
      (urlExpr listingMethod listingPath).textOf? listingValues =
        some "/CLASS/ID/{page}/ID/\x7b?p=PAGE&since=SINCEyyyy" := by
  have plain : ∀ parameter ∈ listingMethod.parameters,
      parameter.name.toList.head? ≠ some '@' := by
    decide
  refine ⟨plain, ?_⟩
  rw [(address_meaning listingMethod listingPath listingValues plain).1]
  decide +kernel

end TypedClients.Generation
