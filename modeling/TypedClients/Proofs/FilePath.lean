import Mathlib.Data.List.Basic
import TypedClients.FilePath
import TypedClients.Proofs.Text.Pieces

/-!
# Where paths lead

The parts of a joined path are those of the base and those of the path behind it. Followed one
after the other, with a dot standing still and two dots going up, they lead to a location that
does not depend on what is there. A path that is a single name leads right below its base.

A location is a list of names. `walk` says where parts lead from a location if nothing is in their
way, and the file tree follows the same parts with the checks in between, so it comes to the same
location or to a fault.
-/

namespace TypedClients.FilePath

open Text

/-! ## Parts -/

/-- The parts of a text of characters. -/
def partsOf (chars : List Char) : List String :=
  ((pieces '/' chars).map String.ofList).filter fun part => !part.isEmpty

/-- The parts of a path are those of its characters. -/
theorem parts_eq (path : String) : parts path = partsOf path.toList :=
  rfl

/-- A slash separates parts: what stands before it and what stands behind it have their parts on
their own. -/
theorem partsOf_append (before behind : List Char) :
    partsOf (before ++ '/' :: behind) = partsOf before ++ partsOf behind := by
  simp only [partsOf, pieces_append, List.map_append, List.filter_append]

/-- A text of no characters has no parts. -/
theorem partsOf_nil : partsOf [] = [] := by
  simp [partsOf, pieces]

/-- An absolute path stays as it is behind a base. -/
theorem join_of_absolute {path : String} (absolute : isAbsolute path = true) (base : String) :
    join base path = path := by
  rw [join, if_pos absolute]

/-- The parts of any other path come behind those of its base, whether the base ends in a slash, is
empty, or has one put behind it. -/
theorem parts_join {path : String} (relative : ¬ isAbsolute path = true) (base : String) :
    parts (join base path) = parts base ++ parts path := by
  rw [join, if_neg relative]
  simp only [parts_eq]
  by_cases empty : base.isEmpty
  · obtain rfl := String.isEmpty_iff.mp empty
    simp [partsOf_nil]
  · by_cases slash : endsInSlash base
    · rw [if_pos (Or.inr slash), String.toList_append]
      obtain ⟨front, spelled⟩ : ∃ front, base.toList = front ++ ['/'] := by
        refine List.getLast?_eq_some_iff.mp ?_
        simpa [endsInSlash] using slash
      rw [spelled, List.append_assoc, List.singleton_append, partsOf_append, partsOf_append,
        partsOf_nil, List.append_nil]
    · rw [if_neg (by simp [empty, slash])]
      simp only [String.toList_append, List.append_assoc]
      exact partsOf_append _ _

/-- A name is one part. -/
theorem parts_of_name {name : String} (free : '/' ∉ name.toList) (filled : name ≠ "") :
    parts name = [name] := by
  rw [parts_eq, partsOf, pieces_of_not_mem free]
  simp [filled]

/-- A text without slashes is no absolute path. -/
theorem not_isAbsolute {path : String} (free : '/' ∉ path.toList) : ¬ isAbsolute path = true := by
  intro absolute
  have first : path.toList.head? = some '/' := by simpa [isAbsolute] using absolute
  exact free (List.mem_of_mem_head? first)

/-- A path behind a base that is no absolute path starts where the base starts: it is absolute just
when the base is. -/
theorem isAbsolute_join {path : String} (relative : ¬ isAbsolute path = true) (base : String) :
    isAbsolute (join base path) = isAbsolute base := by
  have first {front : String} (filled : front ≠ "") (back : String) :
      isAbsolute (front ++ back) = isAbsolute front := by
    cases chars : front.toList with
    | nil => exact absurd (String.toList_eq_nil_iff.mp chars) filled
    | cons c rest => simp [isAbsolute, chars]
  rw [join, if_neg relative]
  by_cases empty : base.isEmpty
  · obtain rfl := String.isEmpty_iff.mp empty
    simpa [isAbsolute] using relative
  · have filled : base ≠ "" := mt String.isEmpty_iff.mpr empty
    split_ifs
    · exact first filled path
    · rw [String.append_assoc]
      exact first filled _

/-- The parts of a path behind two bases are those of the bases, and its own. -/
theorem parts_join_join {path : String} (relative : ¬ isAbsolute path = true)
    (outer inner : String) :
    parts (join outer (join inner path)) = parts (join outer inner) ++ parts path := by
  by_cases absolute : isAbsolute inner
  · rw [join_of_absolute absolute, join_of_absolute, parts_join relative]
    rw [isAbsolute_join relative, absolute]
  · have still : ¬ isAbsolute (join inner path) = true := by
      rwa [isAbsolute_join relative]
    rw [parts_join still, parts_join relative, parts_join absolute, List.append_assoc]

/-- The parts of any path come last behind a base. -/
theorem exists_parts_join (base path : String) :
    ∃ front, parts (join base path) = front ++ parts path := by
  by_cases absolute : isAbsolute path
  · exact ⟨[], by rw [join_of_absolute absolute, List.nil_append]⟩
  · exact ⟨parts base, parts_join absolute base⟩

/-- The last part of a text has the ending of the text, when there is no slash in it. -/
theorem exists_partsOf_ending {ending : List Char} (free : '/' ∉ ending) (filled : ending ≠ [])
    (chars : List Char) : ∃ front name,
      partsOf (chars ++ ending) = front ++ [String.ofList (name ++ ending)] := by
  obtain ⟨front, name, split⟩ := exists_pieces_ending free chars
  refine ⟨(front.map String.ofList).filter fun part => !part.isEmpty, name, ?_⟩
  rw [partsOf, split, List.map_append, List.filter_append]
  simp [filled]

/-- The last part of a path has the ending of the path. -/
theorem exists_parts_ending {ending : String} (free : '/' ∉ ending.toList) (filled : ending ≠ "")
    (text : String) : ∃ front name, parts (text ++ ending) = front ++ [name ++ ending] := by
  have chars_filled : ending.toList ≠ [] := mt String.toList_eq_nil_iff.mp filled
  obtain ⟨front, name, split⟩ := exists_partsOf_ending free chars_filled text.toList
  refine ⟨front, String.ofList name, ?_⟩
  rw [parts_eq, String.toList_append, split, String.ofList_append, String.ofList_toList]

/-! ## Locations -/

/-- Where parts lead from a location, whatever is there. -/
def walk (start : List String) : List String → List String
  | [] => start
  | part :: parts =>
    if part = "." then walk start parts
    else if part = ".." then walk start.dropLast parts
    else walk (start ++ [part]) parts

/-- Where a path leads, as seen from the root. -/
def location (path : String) : List String :=
  walk [] (parts path)

/-- A way is gone piece by piece: the second one starts where the first one has led. -/
theorem walk_append (start : List String) (first second : List String) :
    walk start (first ++ second) = walk (walk start first) second := by
  induction first generalizing start with
  | nil => rfl
  | cons part first inductionHypothesis =>
    simp only [List.cons_append, walk]
    split_ifs <;> exact inductionHypothesis _

/-- Dots lead nowhere. -/
theorem walk_movingParts (path : String) : walk [] (movingParts path) = location path := by
  have still (start parts : List String) :
      walk start (parts.filter fun part => part != ".") = walk start parts := by
    induction parts generalizing start with
    | nil => rfl
    | cons part parts inductionHypothesis =>
      by_cases dot : part = "." <;> simp [dot, walk, inductionHypothesis]
  exact still [] (parts path)

/-- The locations through which a path leads, the one at its end included. -/
def OnWay (path : String) (location : List String) : Prop :=
  ∃ front, front <+: movingParts path ∧ walk [] front = location

/-- A path whose last part is neither a dot nor two leads to that name. That the part is longer than
two dots is enough to know. -/
theorem location_of_parts {path name : String} {front : List String}
    (split : parts path = front ++ [name]) (long : 2 < name.length) :
    location path = walk [] front ++ [name] := by
  have moving : name ≠ "." := by
    rintro rfl
    exact absurd long (by decide)
  have down : name ≠ ".." := by
    rintro rfl
    exact absurd long (by decide)
  rw [location, split, walk_append]
  simp [walk, moving, down]

end TypedClients.FilePath
