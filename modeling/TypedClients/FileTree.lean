import TypedClients.Entries
import TypedClients.FilePath

/-!
# File trees

What is on disk, as far as a run sees it: files and directories by location, where a location is
the names on the way from the root. The root itself is always a directory. Paths are absolute
here; they are followed part by part, and every part but the last has to be found in a directory
that exists.
-/

namespace TypedClients

/-- The names on the way from the root. -/
abbrev Location := List String

/-- What is at a location. -/
inductive Node where
  /-- A file; its text, unless its bytes are no text. -/
  | file (text : Option String)
  | directory
deriving Repr, DecidableEq

/-- Files and directories by location. -/
structure FileTree where
  nodes : List (Location × Node)
deriving Repr, DecidableEq

namespace FileTree

/-- Why an operation fails. -/
inductive Fault where
  | notFound
  | exists
  | notDirectory
  | isDirectory
  | nameTooLong
  /-- The path holds a zero character. -/
  | zeroInPath
  /-- The bytes of the file are no text. -/
  | notText
deriving Repr, DecidableEq

/-- The wording of a fault. -/
def Fault.message : Fault → String
  | .notFound => "No such file or directory (os error 2)"
  | .exists => "File exists (os error 17)"
  | .notDirectory => "Not a directory (os error 20)"
  | .isDirectory => "Is a directory (os error 21)"
  | .nameTooLong => "File name too long (os error 36)"
  | .zeroInPath => "file name contained an unexpected NUL byte"
  | .notText => "stream did not contain valid UTF-8"

/-- The largest size of a name, in bytes. -/
def maxNameSize : Nat := 255

/-- What is at a location. -/
def node? (tree : FileTree) (location : Location) : Option Node :=
  if location = [] then some .directory else tree.nodes.lookup location

/-- The tree with a node at a location. -/
def put (tree : FileTree) (location : Location) (node : Node) : FileTree :=
  ⟨Entries.put location node tree.nodes⟩

/-- What was put at a location is there. The root is left out: it is a directory whatever is put
there. -/
theorem node?_put_self {location : Location} (below : location ≠ []) (tree : FileTree)
    (node : Node) : (tree.put location node).node? location = some node := by
  simp [node?, put, below, Entries.lookup_put_self]

/-- At every other location there is what was there before. -/
theorem node?_put_of_ne {location other : Location} (differ : other ≠ location)
    (tree : FileTree) (node : Node) :
    (tree.put location node).node? other = tree.node? other := by
  simp [node?, put, Entries.lookup_put_of_ne differ]

/-- Follow parts from a location. Nothing has to be at the end of the way. -/
def follow (tree : FileTree) (start : Location) : List String → Except Fault Location
  | [] => .ok start
  | part :: parts =>
    match tree.node? start with
    | none => .error .notFound
    | some (.file _) => .error .notDirectory
    | some .directory =>
      if part = "." then tree.follow start parts
      else if part = ".." then tree.follow start.dropLast parts
      else if part.utf8ByteSize > maxNameSize then .error .nameTooLong
      else tree.follow (start ++ [part]) parts

/-- The parts of a path that can be followed at all. -/
def checkedParts (path : String) : Except Fault (List String) :=
  if path.toList.contains '\x00' then .error .zeroInPath
  else .ok (FilePath.parts path)

/-- What a path leads to, and where that is. A slash at the end asks for a directory. -/
def find (tree : FileTree) (path : String) : Except Fault (Location × Node) := do
  let parts ← checkedParts path
  let location ← tree.follow [] (if FilePath.endsInSlash path then parts ++ ["."] else parts)
  match tree.node? location with
  | none => throw .notFound
  | some node => return (location, node)

/-- Whether a path leads to a directory. -/
def isDirectory (tree : FileTree) (path : String) : Bool :=
  match tree.find path with
  | .ok (_, .directory) => true
  | _ => false

/-- Whether a path leads to a file. -/
def isFile (tree : FileTree) (path : String) : Bool :=
  match tree.find path with
  | .ok (_, .file _) => true
  | _ => false

/-- The text of the file that a path leads to. -/
def read (tree : FileTree) (path : String) : Except Fault String := do
  match ← tree.find path with
  | (_, .file (some text)) => return text
  | (_, .file none) => throw .notText
  | (_, .directory) => throw .isDirectory

/-- Put a file with a text at the end of a path, in place of the file that may be there. -/
def write (tree : FileTree) (path text : String) : Except Fault FileTree := do
  let location ← tree.follow [] (← checkedParts path)
  if FilePath.endsInSlash path ∨ tree.node? location = some .directory then throw .isDirectory
  else return tree.put location (.file (some text))

/-- Make one directory. -/
def makeDirectory (tree : FileTree) (parts : List String) : Except Fault FileTree := do
  let location ← tree.follow [] parts
  if (tree.node? location).isSome then throw .exists
  else return tree.put location .directory

/-- Make one directory, unless it is there already. -/
def ensureDirectory (tree : FileTree) (parts : List String) : Except Fault FileTree :=
  match tree.makeDirectory parts with
  | .error .exists =>
    match tree.follow [] parts with
    | .ok location => if tree.node? location = some .directory then .ok tree else .error .exists
    | .error fault => .error fault
  | result => result

/-- Make a directory and, when the way to it is missing, the directories above it first. They are
given from the innermost outwards. What was made before a failure stays. -/
def ensureBelow (tree : FileTree) (parts : List String) : List String → FileTree × Option Fault
  | [] =>
    match tree.ensureDirectory parts with
    | .ok tree => (tree, none)
    | .error fault => (tree, some fault)
  | name :: above =>
    match tree.ensureDirectory parts with
    | .ok tree => (tree, none)
    | .error .notFound =>
      match tree.ensureBelow (name :: above).reverse above with
      | (tree, some fault) => (tree, some fault)
      | (tree, none) =>
        match tree.ensureDirectory parts with
        | .ok tree => (tree, none)
        | .error fault => (tree, some fault)
    | .error fault => (tree, some fault)

/-- Make the directory that a path names, with all that is missing on the way. -/
def makeDirectories (tree : FileTree) (path : String) : FileTree × Option Fault :=
  match checkedParts path with
  | .error fault => (tree, some fault)
  | .ok parts => tree.ensureBelow parts (FilePath.movingParts path).dropLast.reverse

/-- The names on the way from a directory to a location below it. -/
def namesBelow? (directory location : Location) : Option (List String) :=
  if directory.isPrefixOf location ∧ directory ≠ location then
    some (location.drop directory.length)
  else none

/-- The names on the way from a directory to each file at any depth below it that has a wanted
name, in the order of these names. -/
def filesBelow (tree : FileTree) (directory : Location) (wanted : String → Bool) :
    List (List String) :=
  let found := tree.nodes.filterMap fun (location, node) =>
    match node with
    | .file _ => (namesBelow? directory location).filter fun names => names.getLast?.any wanted
    | .directory => none
  found.mergeSort fun a b => !decide (b < a)

end FileTree

end TypedClients
