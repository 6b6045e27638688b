import TypedClients.FilePath
import TypedClients.LineDiff.Hunk

/-!
# Changes to generated files

A generated text is set against what is on disk under its name: nothing, the same text, or
another one. The report of a check tells about the last two cases, and for another text shows the
differences in hunks. Reports may be coloured for a terminal.

The counts of a change are those of the edit script that the report prints, with a missing file
taken as an empty text. A text that is the same has no report.
-/

namespace TypedClients

/-- The looks of a text on a terminal. -/
structure Style where
  color : Option Nat
  bold : Bool
deriving Repr, DecidableEq

namespace Style

def red : Style := ⟨some 31, false⟩

def green : Style := ⟨some 32, false⟩

def yellow : Style := ⟨some 33, false⟩

def cyan : Style := ⟨some 36, false⟩

def plainBold : Style := ⟨none, true⟩

/-- The same colour in bold. -/
def inBold (style : Style) : Style :=
  { style with bold := true }

/-- A control code. -/
def code (number : Nat) : String :=
  "\x1b[" ++ toString number ++ "m"

/-- A text with the codes of a style before it and the code that ends them behind it; without
colours the text alone. -/
def paint (colors : Bool) (style : Style) (text : String) : String :=
  if colors then
    (style.color.map code).getD "" ++ (if style.bold then code 1 else "") ++ text ++ code 0
  else text

end Style

/-- How a generated text relates to what is on disk. -/
inductive ChangeKind where
  | unchanged
  | missing
  | modified
deriving Repr, DecidableEq

/-- A generated text and what is on disk under its name. -/
structure FileChange where
  /-- The name, relative to the output directory. -/
  name : String
  text : String
  existing : Option String
deriving Repr, DecidableEq

namespace FileChange

open LineDiff

/-- How the generated text relates to what is on disk. -/
def kind (change : FileChange) : ChangeKind :=
  match change.existing with
  | none => .missing
  | some existing => if existing = change.text then .unchanged else .modified

/-- Whether writing the text would change the disk. -/
def isStale (change : FileChange) : Bool :=
  change.kind ≠ .unchanged

/-- Where the text belongs. -/
def target (change : FileChange) (directory : String) : String :=
  FilePath.join directory change.name

/-- The script from what is on disk to the generated text; a missing file counts as empty. -/
def edits (change : FileChange) : List (Edit String) :=
  script (lines (change.existing.getD "")) (lines change.text)

/-- The number of lines that writing would add. -/
def inserted (change : FileChange) : Nat :=
  insertedCount change.edits

/-- The number of lines that writing would take away. -/
def deleted (change : FileChange) : Nat :=
  deletedCount change.edits

/-- A line as it is printed: one without an end gets a line feed. -/
def printedLine (line : String) : String :=
  match line.toList.getLast? with
  | some '\n' | some '\r' => line
  | _ => line ++ "\n"

/-- A step of a script as it is printed. -/
def printEdit (colors : Bool) : Edit String → String
  | .keep line => " " ++ printedLine line
  | .delete line => Style.red.paint colors ("-" ++ printedLine line)
  | .insert line => Style.green.paint colors ("+" ++ printedLine line)

/-- A hunk as it is printed. -/
def printHunk (colors : Bool) (hunk : Hunk String) : String :=
  Style.cyan.paint colors hunk.heading ++ "\n" ++ String.join (hunk.edits.map (printEdit colors))

/-- The line about a file that is not on disk. -/
def missingLine (change : FileChange) (colors : Bool) : String :=
  Style.green.inBold.paint colors "+" ++ " " ++ Style.plainBold.paint colors change.name
    ++ " missing (" ++ toString change.inserted ++ " lines)\n"

/-- The line about a file that holds another text. -/
def modifiedLine (change : FileChange) (colors : Bool) : String :=
  Style.yellow.inBold.paint colors "~" ++ " " ++ Style.plainBold.paint colors change.name
    ++ " out of date (" ++ Style.green.paint colors ("+" ++ toString change.inserted) ++ ", "
    ++ Style.red.paint colors ("-" ++ toString change.deleted) ++ ")\n"

/-- What a check prints about a file; nothing when it is up to date. -/
def report? (change : FileChange) (colors : Bool) : Option String :=
  match change.kind with
  | .unchanged => none
  | .missing => some (change.missingLine colors)
  | .modified =>
    some (change.modifiedLine colors
      ++ String.join ((hunks change.edits).map (printHunk colors)))

end FileChange

end TypedClients
