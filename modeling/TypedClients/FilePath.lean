import TypedClients.Text.Pieces

/-!
# Paths

A path is text with slashes in it. Joining, the parts and the file extension work on the text
alone; what a path leads to is decided by the file tree.

An empty part, as between two slashes, is none. The dots among the parts lead nowhere, and two dots
lead up, which is for the file tree to follow: only there is it known what they lead up from.
-/

namespace TypedClients.FilePath

/-- Whether a path starts at the root. -/
def isAbsolute (path : String) : Bool :=
  path.toList.head? = some '/'

/-- Whether a path insists on a directory. -/
def endsInSlash (path : String) : Bool :=
  path.toList.getLast? = some '/'

/-- A path behind a base: an absolute path replaces the base, and exactly one slash separates a
base that does not end in one. -/
def join (base path : String) : String :=
  if isAbsolute path then path
  else if base.isEmpty ∨ endsInSlash base then base ++ path
  else base ++ "/" ++ path

/-- The pieces of a path between its slashes, without the empty ones. -/
def parts (path : String) : List String :=
  ((Text.pieces '/' path.toList).map String.ofList).filter fun part => !part.isEmpty

/-- The parts of a path that lead somewhere: all but the dots. -/
def movingParts (path : String) : List String :=
  (parts path).filter fun part => part != "."

/-- The name of the file that a path leads to; a path that ends with a step upwards has none. -/
def fileName? (path : String) : Option String :=
  (movingParts path).getLast?.filter fun name => name != ".."

/-- The text behind the last dot of a file name. A name whose only dot is its first character has
no extension. -/
def extensionOfName? (name : String) : Option String :=
  let stem := name.toList.reverse.dropWhile (· != '.')
  if stem.length ≤ 1 then none else some (String.ofList (Text.afterLast '.' name.toList))

/-- The extension of the file that a path leads to. -/
def extension? (path : String) : Option String :=
  (fileName? path).bind extensionOfName?

end TypedClients.FilePath
