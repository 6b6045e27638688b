import TypedClients.Text.Blank
import TypedClients.Text.Pieces

/-!
# Path templates

A path template is literal text with placeholders `{name}` or `{name:constraint}` in it. A
placeholder reaches from a `{` to the first `}` behind it, so a second `{` inside belongs to it;
a `{` with no `}` behind it is literal text.

The name of a placeholder is what stands before its first `:`, without white space around it, and
may be empty. Placeholders are compared with parameters by this name alone.
-/

namespace TypedClients.PathTemplate

open Text

/-- A part of a path template. -/
inductive Segment where
  /-- Literal text, never empty. -/
  | literal (text : String)
  /-- A placeholder, by what stands between its braces. -/
  | placeholder (inner : String)
deriving Repr, DecidableEq

/-- The name of a placeholder: what stands before its first colon, without blanks around it. -/
def placeholderName (inner : String) : String :=
  String.ofList (trimBlanks (beforeFirst ':' inner.toList))

/-- The text of a placeholder as it stands in the template. -/
def placeholderText (inner : String) : String :=
  "\x7b" ++ inner ++ "\x7d"

/-- The text of a segment as it stands in the template. -/
def Segment.text : Segment → String
  | .literal text => text
  | .placeholder inner => placeholderText inner

/-- The text before the first placeholder, what stands inside it, and the text behind it. -/
def firstPlaceholder? (path : List Char) : Option (List Char × List Char × List Char) :=
  match path.dropWhile (· != '{') with
  | [] => none
  | _ :: behind =>
    match behind.dropWhile (· != '}') with
    | [] => none
    | _ :: rest => some (path.takeWhile (· != '{'), behind.takeWhile (· != '}'), rest)

/-- Behind a placeholder there is less of the path than before, by its two braces at least, so that
the splitting of a path ends. -/
theorem length_lt_of_firstPlaceholder {path before inner rest : List Char}
    (found : firstPlaceholder? path = some (before, inner, rest)) :
    rest.length < path.length := by
  unfold firstPlaceholder? at found
  split at found
  · simp at found
  · rename_i head behind opened
    split at found
    · simp at found
    · rename_i last tail closed
      obtain ⟨_, _, rfl⟩ := by simpa using found
      have outer := (List.dropWhile_suffix (l := path) (· != '{')).length_le
      have inside := (List.dropWhile_suffix (l := behind) (· != '}')).length_le
      rw [opened] at outer
      rw [closed] at inside
      simp only [List.length_cons] at outer inside
      omega

/-- Literal text as a segment; the empty text is none. -/
def literalSegment (text : List Char) : List Segment :=
  if text.isEmpty then [] else [.literal (String.ofList text)]

/-- The segments of a path, in order. -/
def segmentsOf (path : List Char) : List Segment :=
  match _found : firstPlaceholder? path with
  | none => literalSegment path
  | some (before, inner, rest) =>
    literalSegment before ++ .placeholder (String.ofList inner) :: segmentsOf rest
termination_by path.length
decreasing_by exact length_lt_of_firstPlaceholder _found

/-- The segments of a path template, in order. -/
def segments (path : String) : List Segment :=
  segmentsOf path.toList

/-- The name of a segment that is a placeholder. -/
def Segment.name? : Segment → Option String
  | .literal _ => none
  | .placeholder inner => some (placeholderName inner)

/-- The placeholder names of a path template, in order and with repetitions. -/
def placeholders (path : String) : List String :=
  (segments path).filterMap Segment.name?

end TypedClients.PathTemplate
