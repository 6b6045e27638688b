import TypedClients.Proofs.Extraction
import TypedClients.Proofs.Generation.Address
import TypedClients.Proofs.Text.Pieces

/-!
# The query string read back

The receiver of a request takes its address apart again: the query string begins behind the first
`?`, a `&` ends each pair, and a `=` separates a key from its value. When the keys and the values
have none of these marks, the pairs that are sent come back as the last ones, each for itself, with
one exception: the mark in front of the first pair is always a `?`, and when the path keeps a `?`
of its own, that second one belongs to a key or a value.

A `?` inside a placeholder that is filled is not kept. One inside a placeholder that is not filled
is, such as the mark of an optional placeholder `{id?}`.
-/

namespace TypedClients.Generation

open CSharp Extraction PathTemplate Text

/-! ## Reading -/

/-- The characters that mean something in an address. -/
def addressMarks : List Char :=
  ['?', '&', '=', '#']

/-- A text without such characters. -/
def Unmarked (text : String) : Prop :=
  ∀ mark ∈ addressMarks, mark ∉ text.toList

instance (text : String) : Decidable (Unmarked text) :=
  decidable_of_iff (addressMarks.all (fun mark => !text.toList.contains mark) = true)
    (by simp [Unmarked])

/-- The key of a pair is what stands before its first `=`, the value what stands behind. -/
def readPair (pair : List Char) : String × String :=
  (String.ofList (beforeFirst '=' pair), String.ofList (afterFirst '=' pair))

/-- The pairs of an address, read from what stands behind its first `?`. -/
def readPairs (address : String) : List (String × String) :=
  if '?' ∈ address.toList then (pieces '&' (afterFirst '?' address.toList)).map readPair else []

/-- What a query parameter sends: its key, and its value in its format. -/
def sentPair (values : FormattedValues) (parameter : Parameter) : String × String :=
  (parameter.queryKey, values parameter.name parameter.formatSpecifier)

/-- The pairs that a method sends, in the order of its query parameters. -/
def sentPairs (values : FormattedValues) (method : Method) : List (String × String) :=
  method.queryParameters.map (sentPair values)

/-- What a query parameter sends has no marks in it. -/
structure SendsUnmarked (values : FormattedValues) (parameter : Parameter) : Prop where
  key : Unmarked parameter.queryKey
  value : Unmarked (values parameter.name parameter.formatSpecifier)

/-- A `?` of the path is in the address as well: it stands in literal text, or in a placeholder that
no route parameter is named for. -/
def KeepsQuestionMark (method : Method) (path : String) : Prop :=
  ∃ segment ∈ segments path, '?' ∈ segment.text.toList ∧
    ∀ name ∈ segment.name?, name ∉ method.routeNames

instance (method : Method) (path : String) : Decidable (KeepsQuestionMark method path) :=
  inferInstanceAs (Decidable (∃ segment ∈ segments path, '?' ∈ segment.text.toList ∧
    ∀ name ∈ segment.name?, name ∉ method.routeNames))

/-- A text without the marks of a query string is free of each of them. -/
theorem Unmarked.free {text : String} (unmarked : Unmarked text) :
    '?' ∉ text.toList ∧ '&' ∉ text.toList ∧ '=' ∉ text.toList :=
  ⟨unmarked '?' (by decide), unmarked '&' (by decide), unmarked '=' (by decide)⟩

/-- A key without a `=` is read up to the one that was put behind it. -/
theorem readPair_append {key : String} (free : '=' ∉ key.toList) (value : String) :
    readPair (key ++ "=" ++ value).toList = (key, value) := by
  obtain ⟨before, behind⟩ := cut_at_first free value.toList
  have spelled : (key ++ "=" ++ value).toList = key.toList ++ '=' :: value.toList := by simp
  rw [readPair, spelled, before, behind, String.ofList_toList, String.ofList_toList]

/-- Every character of a pair but its first `=` belongs to the key or to the value. -/
theorem mem_readPair {c : Char} {pair : List Char} (other : c ≠ '=') (member : c ∈ pair) :
    c ∈ (readPair pair).1.toList ∨ c ∈ (readPair pair).2.toList := by
  by_cases marked : '=' ∈ pair
  · obtain ⟨key, value, rfl, free⟩ := List.eq_append_cons_of_mem marked
    obtain ⟨before, behind⟩ := cut_at_first free value
    simpa [readPair, before, behind, other] using member
  · have whole : beforeFirst '=' pair = pair := beforeFirst_eq_iff.mpr ⟨marked, Or.inl rfl⟩
    exact Or.inl (by simpa [readPair, whole] using member)

/-- Behind any beginning, a pair and those behind it are cut apart at the marks between them. Only
the first pair stays with what stands before it. -/
theorem pieces_intercalate (before : List Char) (pair : String) (others : List String)
    (free : ∀ other ∈ others, '&' ∉ other.toList) :
    pieces '&' (before ++ (String.intercalate "&" (pair :: others)).toList) =
      pieces '&' (before ++ pair.toList) ++ others.map String.toList := by
  induction others generalizing before pair with
  | nil => simp
  | cons next others inductionHypothesis =>
    obtain ⟨nextFree, othersFree⟩ := List.forall_mem_cons.mp free
    have rest := inductionHypothesis [] next othersFree
    simp only [List.nil_append, pieces_of_not_mem nextFree] at rest
    have spelled : before ++ (String.intercalate "&" (pair :: next :: others)).toList =
        (before ++ pair.toList) ++
          '&' :: (String.intercalate "&" (next :: others)).toList := by
      simp [String.intercalate_cons_cons]
    rw [spelled, pieces_append, rest]
    simp

section Address

variable {method : Method} {values : FormattedValues} {path : String}

/-- A pair without marks is spelled without a `&`. -/
theorem SendsUnmarked.pair_free {parameter : Parameter}
    (unmarked : SendsUnmarked values parameter) : '&' ∉ (queryPair values parameter).toList := by
  have keyFree := unmarked.key.free.2.1
  rw [Parameter.queryKey] at keyFree
  simp [queryPair, keyFree, unmarked.value.free.2.1]

/-- A pair without marks is read as it is sent. -/
theorem SendsUnmarked.readPair_eq {parameter : Parameter}
    (unmarked : SendsUnmarked values parameter) :
    readPair (queryPair values parameter).toList = sentPair values parameter :=
  readPair_append unmarked.key.free.2.2 _

/-- Behind any path, the pairs of a query string are read as they are sent. Only the first one is
read with what stands before it. -/
theorem readPairs_intercalate (before : List Char) (first : Parameter) {others : List Parameter}
    (unmarked : ∀ parameter ∈ others, SendsUnmarked values parameter) :
    (pieces '&' (before ++ (String.intercalate "&"
        ((first :: others).map (queryPair values))).toList)).map readPair =
      (pieces '&' (before ++ (queryPair values first).toList)).map readPair ++
        others.map (sentPair values) := by
  have free : ∀ pair ∈ others.map (queryPair values), '&' ∉ pair.toList := by
    intro pair member
    obtain ⟨parameter, among, rfl⟩ := List.mem_map.mp member
    exact (unmarked parameter among).pair_free
  rw [List.map_cons, pieces_intercalate before _ _ free, List.map_append, List.map_map,
    List.map_map]
  refine congrArg (List.append _) (List.map_congr_left ?_)
  intro parameter among
  exact (unmarked parameter among).readPair_eq

/-- The text of the path has a `?` exactly when one of the template is kept: values have none, and
one inside a filled placeholder goes with it. -/
theorem mark_mem_path_iff (plain : ∀ parameter ∈ method.parameters,
      parameter.name.toList.head? ≠ some '@')
    (unmarked : ∀ parameter ∈ method.parameters, Unmarked (values parameter.name none)) :
    '?' ∈ filledPath (placeholderValue method values) none path.toList ↔
      KeepsQuestionMark method path := by
  have spelled := congrArg String.toList (textOf_segmentsOf method values plain path.toList)
  rw [String.toList_ofList, String.toList_join] at spelled
  rw [← spelled, List.flatMap_map, List.mem_flatMap]
  refine exists_congr fun segment => and_congr_right fun _ => ?_
  cases segment with
  | literal text => simp [segmentPart, InterpolationPart.textOf, Segment.text, Segment.name?]
  | placeholder inner =>
    by_cases routed : placeholderName inner ∈ method.routeNames
    · obtain ⟨parameter, among, named⟩ := List.mem_map.mp routed
      have member : parameter ∈ method.parameters := (List.mem_filter.mp among).1
      have denoted := denotedName_escapedIdentifier parameter.name (plain parameter member)
      have absent := (unmarked parameter member).free.1
      rw [named] at denoted absent
      simp [segmentPart, routed, InterpolationPart.textOf, denoted, absent, Segment.name?]
    · simp [segmentPart, routed, InterpolationPart.textOf, Segment.text, Segment.name?]

/-- The pairs come back when the path has no `?`: the first one stands in front of them. -/
theorem readPairs_of_absent {text : List Char} (absent : '?' ∉ text) {first : Parameter}
    {others : List Parameter}
    (unmarked : ∀ parameter ∈ first :: others, SendsUnmarked values parameter) :
    readPairs (String.ofList text ++ queryString values (first :: others)) =
      (first :: others).map (sentPair values) := by
  obtain ⟨front, rest⟩ := List.forall_mem_cons.mp unmarked
  have spelled : (String.ofList text ++ queryString values (first :: others)).toList =
      text ++ '?' ::
        (String.intercalate "&" ((first :: others).map (queryPair values))).toList := by
    simp [queryString]
  have alone := readPairs_intercalate [] first rest
  rw [List.nil_append, List.nil_append, pieces_of_not_mem front.pair_free, List.map_singleton,
    front.readPair_eq] at alone
  rw [readPairs, spelled, if_pos (by simp), (cut_at_first absent _).2, alone]
  rfl

/-- The first pair does not come back when the path has a `?` already: the one in front of the pair
becomes part of it. -/
theorem not_suffix_of_present {text : List Char} (present : '?' ∈ text) {first : Parameter}
    {others : List Parameter}
    (unmarked : ∀ parameter ∈ first :: others, SendsUnmarked values parameter) :
    ¬ (first :: others).map (sentPair values) <:+
      readPairs (String.ofList text ++ queryString values (first :: others)) := by
  obtain ⟨front, rest⟩ := List.forall_mem_cons.mp unmarked
  obtain ⟨path, behind, rfl, absent⟩ := List.eq_append_cons_of_mem present
  have spelled : (String.ofList (path ++ '?' :: behind) ++
        queryString values (first :: others)).toList =
      path ++ '?' :: ((behind ++ ['?']) ++
        (String.intercalate "&" ((first :: others).map (queryPair values))).toList) := by
    simp [queryString]
  -- The last piece in front of the other pairs ends in the first pair, with the mark before it.
  have bounded : '&' ∉ '?' :: (queryPair values first).toList := by
    simpa using front.pair_free
  obtain ⟨earlier, last, split⟩ := exists_pieces_ending bounded behind
  rw [readPairs, spelled, if_pos (by simp), (cut_at_first absent _).2,
    readPairs_intercalate _ first rest, List.append_assoc behind, List.singleton_append, split,
    List.map_append, List.map_singleton, List.append_assoc]
  intro suffix
  have merged : sentPair values first =
      readPair (last ++ '?' :: (queryPair values first).toList) := by
    rw [List.map_cons, ← List.nil_append (_ :: _), List.suffix_append_inj_of_length_eq (by simp)]
      at suffix
    exact (List.cons.inj suffix.2).1
  have mark := mem_readPair (by decide : '?' ≠ '=')
    (show '?' ∈ last ++ '?' :: (queryPair values first).toList by simp)
  rw [← merged] at mark
  exact mark.elim front.key.free.1 front.value.free.1

end Address

/-- For keys and values without marks, the pairs that are read from the address of a method end in
those of all its query parameters, in their order and each for itself, exactly when there are no
query parameters or the path keeps no `?` of its own. -/
theorem query_reads_back_iff {declared : ClassDeclaration} {defaults : Defaults} {method : Method}
    (member : method ∈ (extractClient declared defaults).methods) (path : String)
    (values : FormattedValues)
    (keys : ∀ parameter ∈ method.queryParameters, Unmarked parameter.queryKey)
    (unmarked : ∀ parameter ∈ method.parameters, ∀ format ∈ [none, parameter.formatSpecifier],
      Unmarked (values parameter.name format)) :
    ∃ address, (urlExpr method path).textOf? values = some address ∧
      (sentPairs values method <:+ readPairs address ↔
        method.queryParameters = [] ∨ ¬ KeepsQuestionMark method path) := by
  have plain := extracted_unmarked member
  cases sent : method.queryParameters with
  | nil =>
    -- The end of every list has no pairs, whatever is read from the path.
    have written : ∃ address, (urlExpr method path).textOf? values = some address := by
      unfold urlExpr
      split <;> exact ⟨_, rfl⟩
    obtain ⟨address, text⟩ := written
    exact ⟨address, text, by simp [sentPairs, sent]⟩
  | cons first others =>
    have among : ∀ parameter ∈ first :: others, parameter ∈ method.parameters := by
      intro parameter inQuery
      rw [← sent] at inQuery
      exact (List.mem_filter.mp inQuery).1
    have filled : method.parameters.isEmpty = false := by
      simpa using List.ne_nil_of_mem (among first List.mem_cons_self)
    have text : (urlExpr method path).textOf? values = some (addressOf method path values) := by
      rw [urlExpr, filled]
      exact congrArg some (textOf_urlParts method path values plain)
    refine ⟨_, text, ?_⟩
    have marked : '?' ∈ filledPath (placeholderValue method values) none path.toList ↔
        KeepsQuestionMark method path :=
      mark_mem_path_iff plain fun parameter member => unmarked parameter member none (by simp)
    have queried : (method.parameters.filter fun parameter => parameter.binding = .query) =
      first :: others := sent
    have sendsUnmarked : ∀ parameter ∈ first :: others, SendsUnmarked values parameter := by
      intro parameter inQuery
      exact ⟨keys parameter (sent ▸ inQuery),
        unmarked parameter (among parameter inQuery) _ (by simp)⟩
    rw [addressOf, queried, sentPairs, sent, ← marked]
    constructor
    · intro suffix
      refine Or.inr fun present => ?_
      exact not_suffix_of_present present sendsUnmarked suffix
    · rintro (none | absent)
      · cases none
      · exact ⟨[], (readPairs_of_absent absent sendsUnmarked).symm⟩

/-- A class with one method. -/
def libraryClass (method : MethodDeclaration) : ClassDeclaration where
  scope := ""
  imports := []
  name := "Library"
  attributes := []
  methods := [method]

/-- A method with a `?` in a placeholder that is filled, and two query parameters. -/
def listingDeclaration : MethodDeclaration where
  name := "ListAsync"
  returnType := "Task"
  attributes := [⟨"Get", [⟨none, .literal "/shelves/{shelf:int?}"⟩]⟩]
  parameters :=
    [⟨"shelf", "int", []⟩, ⟨"page", "int", [⟨"AliasAs", [⟨none, .literal "p"⟩]⟩]⟩,
     ⟨"since", "DateTime", [⟨"Fmt", [⟨none, .literal "yyyy"⟩]⟩]⟩]

/-- The query string of the listing is read back from its address. Its path has a question mark in a
placeholder, but no longer when the placeholder is filled. -/
theorem listing_reads_back :
    ∃ method, (extractClient (libraryClass listingDeclaration) .standard).methods = [method] ∧
      ∃ address, (urlExpr method "/shelves/{shelf:int?}").textOf? listingValues = some address ∧
        sentPairs listingValues method <:+ readPairs address ∧
        sentPairs listingValues method = [("p", "PAGE"), ("since", "SINCEyyyy")] := by
  refine ⟨_, rfl, ?_⟩
  obtain ⟨address, text, reads⟩ := query_reads_back_iff
    (show _ ∈ (extractClient (libraryClass listingDeclaration) .standard).methods from
      List.mem_cons_self) "/shelves/{shelf:int?}" listingValues (by decide +kernel)
      (by decide +kernel)
  have kept : ¬ KeepsQuestionMark (extractMethod
      (classOptions (libraryClass listingDeclaration) .standard) listingDeclaration)
      "/shelves/{shelf:int?}" := by
    decide +kernel
  exact ⟨address, text, reads.mpr (Or.inr kept), by decide +kernel⟩

/-- A method with a pair in its path already, and a query parameter. -/
def searchDeclaration : MethodDeclaration where
  name := "FindAsync"
  returnType := "Task"
  attributes := [⟨"Get", [⟨none, .literal "/search?kind=book"⟩]⟩]
  parameters := [⟨"q", "string", []⟩]

/-- The pair of the query parameter becomes part of the value of the pair in the path. -/
theorem search_merges_pairs :
    ∃ method, (extractClient (libraryClass searchDeclaration) .standard).methods = [method] ∧
      method.endpoint?.map Endpoint.pathTemplate = some "/search?kind=book" ∧
      '#' ∉ "/search?kind=book".toList ∧
      (∀ parameter ∈ method.queryParameters, Unmarked parameter.queryKey) ∧ Unmarked "lean" ∧
      (urlExpr method "/search?kind=book").textOf? (fun _ _ => "lean") =
        some "/search?kind=book?q=lean" ∧
      readPairs "/search?kind=book?q=lean" = [("kind", "book?q=lean")] ∧
      sentPairs (fun _ _ => "lean") method = [("q", "lean")] ∧
      ¬ sentPairs (fun _ _ => "lean") method <:+ readPairs "/search?kind=book?q=lean" := by
  refine ⟨_, rfl, ?_⟩
  decide +kernel

end TypedClients.Generation
