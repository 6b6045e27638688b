/-!
# Cutting text at a mark

The pieces of a text around a separator character, and the text behind a given beginning or in
front of a given ending.

A text without the separator is a single piece, and between two separators next to each other is an
empty one: there is always one piece more than there are separators.
-/

namespace TypedClients.Text

/-- The pieces of a text between the marks in it; one more than there are marks. -/
def pieces (mark : Char) : List Char → List (List Char)
  | [] => [[]]
  | c :: rest =>
    if c = mark then [] :: pieces mark rest
    else match pieces mark rest with
      | [] => [[c]]
      | piece :: others => (c :: piece) :: others

/-- The text behind the last `mark`, all of it when there is none. -/
def afterLast (mark : Char) (text : List Char) : List Char :=
  (text.reverse.takeWhile (· != mark)).reverse

/-- The text before the first `mark`, all of it when there is none. -/
def beforeFirst (mark : Char) (text : List Char) : List Char :=
  text.takeWhile (· != mark)

/-- The text behind the first `mark`, nothing when there is none. -/
def afterFirst (mark : Char) (text : List Char) : List Char :=
  (text.dropWhile (· != mark)).drop 1

/-- The text behind `start`, when the text begins with it. -/
def behind? (start text : List Char) : Option (List Char) :=
  if start.isPrefixOf text then some (text.drop start.length) else none

/-- The text in front of `ending`, when the text ends with it. -/
def inFrontOf? (ending text : List Char) : Option (List Char) :=
  if ending.isSuffixOf text then some (text.take (text.length - ending.length)) else none

/-- The text behind `start` when it begins so, else the text itself. -/
def withoutStart (start text : List Char) : List Char :=
  (behind? start text).getD text

end TypedClients.Text
