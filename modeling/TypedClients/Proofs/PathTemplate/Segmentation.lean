import Mathlib.Data.List.Chain
import Mathlib.Data.List.Forall2
import TypedClients.Proofs.PathTemplate
import TypedClients.Proofs.Text.Blank

/-!
# The one way to cut a path template

A path template can be cut into literal text and placeholders in exactly one way, if nothing of it
may be lost, literal text is as long as it can be, a placeholder ends at its first `}`, and a `{`
is literal text only where no placeholder can begin any more. `Segmentation` states these rules of
a list of segments and its template; it does not cut anything. The segments of a template satisfy
them, and no other segments do.
-/

namespace TypedClients.PathTemplate

open Text

/-- Whether a segment is literal text. -/
def Segment.IsLiteral : Segment → Prop
  | .literal _ => True
  | .placeholder _ => False

/-- What stands between the braces of a segment that is a placeholder. -/
def Segment.inner? : Segment → Option String
  | .literal _ => none
  | .placeholder inner => some inner

/-- The rules by which a path is cut into segments. -/
structure Segmentation (path : List Char) (found : List Segment) : Prop where
  lossless : found.flatMap (fun segment => segment.text.toList) = path
  filled : .literal "" ∉ found
  /-- No two literal texts stand side by side. -/
  parted : found.IsChain fun first next => ¬ (first.IsLiteral ∧ next.IsLiteral)
  bracketed : ∀ inner, .placeholder inner ∈ found → '}' ∉ inner.toList ∧
    (Segment.placeholder inner).text.toList = '{' :: (inner.toList ++ ['}'])
  /-- Literal text with another segment behind it has no `{`. -/
  opensLast : found.IsChain fun first _ => ∀ text, first = .literal text → '{' ∉ text.toList
  /-- No `}` comes behind a `{` in literal text. -/
  unclosed : ∀ text, .literal text ∈ found →
    ∀ front behind, text.toList = front ++ '{' :: behind → '}' ∉ behind

/-- A name belongs to a placeholder: it is what stands before the first colon inside, without the
white space around it. -/
def IsNameOf (inner name : String) : Prop :=
  ∃ plain, FirstPiece ':' inner.toList plain ∧ Trims plain name.toList

/-- The text of a literal is the literal. -/
@[simp] theorem toList_text_literal (text : String) :
    (Segment.literal text).text.toList = text.toList := rfl

/-- The text of a placeholder is what is inside of it between two braces. -/
@[simp] theorem toList_text_placeholder (inner : String) :
    (Segment.placeholder inner).text.toList = '{' :: (inner.toList ++ ['}']) := by
  simp [Segment.text, placeholderText]

/-- A literal of some characters is not the empty one. -/
theorem literal_ofList_ne_empty {text : List Char} (filled : ¬ text.isEmpty = true) :
    Segment.literal "" ≠ .literal (String.ofList text) := by
  intro same
  have spelled : [] = text := by
    simpa using congrArg String.toList (Segment.literal.inj same)
  exact filled (List.isEmpty_iff.mpr spelled.symm)

/-! ## Segments in front -/

/-- Only the empty path has no segments. -/
theorem segmentation_nil {path : List Char} : Segmentation path [] ↔ path = [] := by
  constructor
  · intro cut
    exact cut.lossless.symm
  · rintro rfl
    exact ⟨rfl, by simp, .nil, by simp, .nil, by simp⟩

/-- What is left of a path behind its first segment is cut by the same rules, which is what the
induction on the segments goes by. -/
theorem Segmentation.tail {path : List Char} {first : Segment} {found : List Segment}
    (cut : Segmentation path (first :: found)) :
    ∃ rest, path = first.text.toList ++ rest ∧ Segmentation rest found := by
  refine ⟨found.flatMap fun segment => segment.text.toList, by simpa using cut.lossless.symm, ?_⟩
  exact {
    lossless := rfl
    filled := fun empty => cut.filled (List.mem_cons_of_mem _ empty)
    parted := cut.parted.tail
    bracketed := fun inner member => cut.bracketed inner (List.mem_cons_of_mem _ member)
    opensLast := cut.opensLast.tail
    unclosed := fun text member => cut.unclosed text (List.mem_cons_of_mem _ member) }

/-- A placeholder can stand in front of whatever is cut by the rules, as its braces keep it apart
from what comes behind it. -/
theorem Segmentation.placeholder {rest : List Char} {found : List Segment}
    (cut : Segmentation rest found) {inner : List Char} (closed : '}' ∉ inner) :
    Segmentation ('{' :: (inner ++ '}' :: rest)) (.placeholder (String.ofList inner) :: found) where
  lossless := by simp [cut.lossless]
  filled := by simp [cut.filled]
  parted := cut.parted.cons fun _ _ both => both.1
  bracketed := by
    intro other member
    rcases List.mem_cons.mp member with same | later
    · obtain rfl := (Segment.placeholder.inj same)
      simp [closed]
    · exact cut.bracketed other later
  opensLast := cut.opensLast.cons fun _ _ text same => by cases same
  unclosed := fun text member => cut.unclosed text (by simpa using member)

/-- Literal text without a `{` can stand in front of a placeholder. It is as long as it can be, as
the placeholder begins right behind it. -/
theorem Segmentation.literal {path text : List Char} {inner : String} {found : List Segment}
    (cut : Segmentation path (.placeholder inner :: found)) (plain : '{' ∉ text) :
    Segmentation (text ++ path) (literalSegment text ++ .placeholder inner :: found) := by
  unfold literalSegment
  split
  · rename_i empty
    simpa [List.isEmpty_iff.mp empty] using cut
  · rename_i filled
    exact {
      lossless := by simp [← cut.lossless]
      filled := by
        rw [List.cons_append, List.nil_append, List.mem_cons]
        exact fun empty => empty.elim (literal_ofList_ne_empty filled) cut.filled
      parted := cut.parted.cons fun next first both => by
        obtain rfl : Segment.placeholder inner = next := by simpa using first
        exact both.2
      bracketed := fun other member => cut.bracketed other (by simpa using member)
      opensLast := cut.opensLast.cons fun _ _ own same => by
        obtain rfl := Segment.literal.inj same
        simpa using plain
      unclosed := by
        intro own member front behind split
        rcases List.mem_cons.mp member with same | later
        · obtain rfl := Segment.literal.inj same
          rw [String.toList_ofList] at split
          exact absurd (by simp [split]) plain
        · exact cut.unclosed own later front behind split }

/-- In a path without a placeholder no `}` comes behind a `{`, since the first of each would make
one. -/
theorem unclosed_of_none {path front behind : List Char}
    (absent : firstPlaceholder? path = none) (split : path = front ++ '{' :: behind) :
    '}' ∉ behind := by
  rcases firstPlaceholder_none absent with plain | ⟨before, left, path_eq, plain, unclosed⟩
  · exact absurd (by simp [split]) plain
  · intro closed
    rw [path_eq] at split
    rcases List.append_eq_append_iff.mp split with ⟨gap, -, left_eq⟩ | ⟨gap, before_eq, behind_eq⟩
    · cases gap with
      | nil =>
        obtain ⟨-, rfl⟩ := List.cons.inj left_eq
        exact unclosed closed
      | cons first gap =>
        obtain ⟨-, rfl⟩ := List.cons.inj left_eq
        exact unclosed (by simp [closed])
    · cases gap with
      | nil =>
        obtain ⟨-, rfl⟩ := List.cons.inj behind_eq
        exact unclosed closed
      | cons first gap =>
        obtain ⟨rfl, -⟩ := List.cons.inj behind_eq
        exact plain (by simp [before_eq])

/-- A path without a placeholder is literal text, or nothing when the path is empty, as no segment
is an empty text. -/
theorem segmentation_of_none {path : List Char} (absent : firstPlaceholder? path = none) :
    Segmentation path (literalSegment path) := by
  unfold literalSegment
  split
  · rename_i empty
    exact segmentation_nil.mpr (List.isEmpty_iff.mp empty)
  · rename_i filled
    exact {
      lossless := by simp
      filled := fun empty => literal_ofList_ne_empty filled (List.mem_singleton.mp empty)
      parted := .singleton _
      bracketed := by simp
      opensLast := .singleton _
      unclosed := by
        intro own member front behind split
        obtain rfl := Segment.literal.inj (List.mem_singleton.mp member)
        rw [String.toList_ofList] at split
        exact unclosed_of_none absent split }

/-- The segments of a path are cut by the rules. -/
theorem segmentation_segmentsOf (path : List Char) : Segmentation path (segmentsOf path) := by
  induction path using segmentsOf.induct with
  | case1 path absent =>
    rw [segmentsOf_of_none absent]
    exact segmentation_of_none absent
  | case2 path before inner rest found inductionHypothesis =>
    obtain ⟨path_eq, plain, closed⟩ := firstPlaceholder_parts found
    rw [segmentsOf_of_some found, path_eq]
    exact (inductionHypothesis.placeholder closed).literal plain

/-! ## No other segments -/

section Unique

variable {path before inner rest : List Char} {found others : List Segment} {text : String}

/-- Literal text in front is not empty. -/
theorem Segmentation.literalSegment_eq (cut : Segmentation path (.literal text :: others)) :
    literalSegment text.toList = [.literal text] := by
  have filled : text ≠ "" := by
    rintro rfl
    exact cut.filled List.mem_cons_self
  simp [literalSegment, filled]

/-- Behind literal text comes a placeholder or nothing. In the first case the text has no `{`, or
the placeholder would have begun there. -/
theorem Segmentation.behind_literal (cut : Segmentation path (.literal text :: others)) :
    others = [] ∨
      '{' ∉ text.toList ∧ ∃ own later, others = .placeholder own :: later := by
  cases others with
  | nil => exact Or.inl rfl
  | cons next later =>
    have plain := (List.isChain_cons_cons.mp cut.opensLast).1 text rfl
    have apart := (List.isChain_cons_cons.mp cut.parted).1
    cases next with
    | literal other => exact absurd ⟨trivial, trivial⟩ apart
    | placeholder own => exact Or.inr ⟨plain, own, later, rfl⟩

/-- A placeholder in front reaches to the first `}`. -/
theorem Segmentation.placeholder_front {own : String}
    (cut : Segmentation path (.placeholder own :: others)) :
    ∃ rest, path = '{' :: (own.toList ++ '}' :: rest) ∧ '}' ∉ own.toList ∧
      Segmentation rest others := by
  obtain ⟨rest, path_eq, behind⟩ := cut.tail
  exact ⟨rest, by simpa using path_eq, (cut.bracketed own List.mem_cons_self).1, behind⟩

/-- A path without a placeholder has no segments but its literal text: in any others there would be
a brace to begin a placeholder. -/
theorem Segmentation.eq_of_none (cut : Segmentation path found)
    (absent : firstPlaceholder? path = none) : found = literalSegment path := by
  have unclosed (front : List Char) {own : String} {left : List Char} :
      path ≠ front ++ '{' :: (own.toList ++ '}' :: left) :=
    fun split => unclosed_of_none absent split (by simp)
  match found with
  | [] =>
    obtain rfl := segmentation_nil.mp cut
    rfl
  | .placeholder own :: others =>
    obtain ⟨left, path_eq, -⟩ := cut.placeholder_front
    exact absurd path_eq (unclosed [])
  | .literal text :: others =>
    obtain ⟨left, path_eq, behind⟩ := cut.tail
    rcases cut.behind_literal with rfl | ⟨-, own, later, rfl⟩
    · obtain rfl := segmentation_nil.mp behind
      rw [path_eq, toList_text_literal, List.append_nil, cut.literalSegment_eq]
    · obtain ⟨rest, rfl, -⟩ := behind.placeholder_front
      exact absurd path_eq (unclosed text.toList)

/-- The first segments of a path with a placeholder are the text before it and the placeholder. No
other cut of the path obeys the rules, as literal text may not go on behind the first `{`. -/
theorem Segmentation.eq_of_placeholder
    (cut : Segmentation (before ++ '{' :: (inner ++ '}' :: rest)) found)
    (plain : '{' ∉ before) (closed : '}' ∉ inner) :
    ∃ later, found = literalSegment before ++ .placeholder (String.ofList inner) :: later ∧
      Segmentation rest later := by
  match found with
  | [] =>
    have empty := segmentation_nil.mp cut
    simp at empty
  | .placeholder own :: others =>
    obtain ⟨left, path_eq, ownClosed, behind⟩ := cut.placeholder_front
    have front : before ++ '{' :: (inner ++ '}' :: rest) = [] ++ '{' :: _ := path_eq
    obtain ⟨rfl, inside⟩ := cut_unique plain List.not_mem_nil front
    obtain ⟨rfl, rfl⟩ := cut_unique closed ownClosed inside
    exact ⟨others, by simp [literalSegment], behind⟩
  | .literal text :: others =>
    obtain ⟨left, path_eq, behind⟩ := cut.tail
    rcases cut.behind_literal with rfl | ⟨ownPlain, own, later, rfl⟩
    · -- The whole path would be literal text, with a `}` behind its first `{`.
      obtain rfl := segmentation_nil.mp behind
      have whole : text.toList = before ++ '{' :: (inner ++ '}' :: rest) := by
        simpa using path_eq.symm
      exact absurd (by simp) (cut.unclosed text List.mem_cons_self _ _ whole)
    · obtain ⟨left, rfl, ownClosed, behind⟩ := behind.placeholder_front
      obtain ⟨rfl, inside⟩ := cut_unique plain ownPlain path_eq
      obtain ⟨rfl, rfl⟩ := cut_unique closed ownClosed inside
      exact ⟨later, by simp [cut.literalSegment_eq], behind⟩

/-- Segments that are cut by the rules are those of the path. The induction follows the cuts of
the path at its placeholders. -/
theorem Segmentation.eq_segmentsOf (cut : Segmentation path found) : found = segmentsOf path := by
  induction path using segmentsOf.induct generalizing found with
  | case1 path absent =>
    rw [segmentsOf_of_none absent]
    exact cut.eq_of_none absent
  | case2 path before inner rest split inductionHypothesis =>
    obtain ⟨rfl, plain, closed⟩ := firstPlaceholder_parts split
    obtain ⟨later, rfl, behind⟩ := cut.eq_of_placeholder plain closed
    rw [segmentsOf_of_some split, inductionHypothesis behind]

end Unique

/-- What is taken for the name of a placeholder is its name, and nothing else is. -/
theorem isNameOf_iff {inner name : String} :
    IsNameOf inner name ↔ name = placeholderName inner := by
  unfold IsNameOf placeholderName
  constructor
  · rintro ⟨plain, first, trims⟩
    rw [beforeFirst_eq_iff.mpr first, trimBlanks_eq_iff.mpr trims, String.ofList_toList]
  · rintro rfl
    refine ⟨beforeFirst ':' inner.toList, beforeFirst_eq_iff.mp rfl, ?_⟩
    rw [String.toList_ofList]
    exact trimBlanks_eq_iff.mp rfl

/-- The segments of a path template satisfy the rules of its segmentation, and no others do. The
placeholder names of the template are the names of its placeholders, in their order. -/
theorem segments_canonical (path : String) :
    (∀ found, Segmentation path.toList found ↔ found = segments path) ∧
      List.Forall₂ IsNameOf ((segments path).filterMap Segment.inner?) (placeholders path) := by
  constructor
  · intro found
    constructor
    · exact Segmentation.eq_segmentsOf
    · rintro rfl
      exact segmentation_segmentsOf path.toList
  · unfold placeholders
    induction segments path with
    | nil => exact .nil
    | cons segment others inductionHypothesis =>
      cases segment with
      | literal text => exact inductionHypothesis
      | placeholder inner => exact .cons (isNameOf_iff.mpr rfl) inductionHypothesis

/-- Braces inside a placeholder, an empty placeholder, and a brace that is never closed. -/
example : segments "/\x7ba\x7bb : int \x7d\x7d\x7b\x7d/\x7bc" =
      [.literal "/", .placeholder "a\x7bb : int ", .literal "\x7d", .placeholder "",
        .literal "/\x7bc"] ∧
    placeholders "/\x7ba\x7bb : int \x7d\x7d\x7b\x7d/\x7bc" = ["a\x7bb", ""] := by
  decide +kernel

end TypedClients.PathTemplate
