/-!
# Laying out lines

Source text is a list of steps: a line, an empty line, an opening and a closing brace. A page
takes one step at a time and knows how many braces are open; a line is indented by four blanks
for each of them. A brace that was never opened cannot be closed, and a page is finished only
when none is open.

A page holds the text that is written and the number of open braces, and takes a step by looking at
nothing else. Its two faults, a brace that closes nothing and a page that is finished too early, are
told apart.
-/

namespace TypedClients.Layout

/-- One step of a layout. -/
inductive Step where
  /-- A line, or several lines in one text. -/
  | line (text : String)
  | blank
  | opening
  | closing
deriving Repr, DecidableEq

/-- The text written so far and the number of open braces. -/
structure Page where
  text : String
  depth : Nat
deriving Repr, DecidableEq

/-- Why steps do not make a finished text. -/
inductive Fault where
  /-- A brace was closed that was not open. -/
  | notOpen
  /-- This many braces were still open at the end. -/
  | leftOpen (depth : Nat)
deriving Repr, DecidableEq

/-- The wording of a fault. -/
def Fault.message : Fault → String
  | .notOpen => "end_block without a matching begin_block"
  | .leftOpen depth => toString depth ++ " block(s) left open"

/-- A line without the carriage return at its end. -/
def withoutReturn (line : List Char) : List Char :=
  if line.getLast? = some '\r' then line.dropLast else line

/-- One line at a depth. An empty line is not indented. -/
def lineAt (depth : Nat) (line : List Char) : List Char :=
  if line.isEmpty then ['\n'] else List.replicate (4 * depth) ' ' ++ line ++ ['\n']

/-- A text at a depth, each of its lines on a line of its own. -/
def linesAt (depth : Nat) (text : String) : String :=
  String.ofList ((text.toList.splitOn '\n').flatMap fun line => lineAt depth (withoutReturn line))

namespace Page

/-- A page with nothing on it. -/
def empty : Page := ⟨"", 0⟩

/-- A page after one more step. -/
def write (page : Page) : Step → Except Fault Page
  | .line text => .ok ⟨page.text ++ linesAt page.depth text, page.depth⟩
  | .blank => .ok ⟨page.text ++ "\n", page.depth⟩
  | .opening => .ok ⟨page.text ++ linesAt page.depth "\x7b", page.depth + 1⟩
  | .closing =>
    match page.depth with
    | 0 => .error .notOpen
    | outer + 1 => .ok ⟨page.text ++ linesAt outer "\x7d", outer⟩

/-- A page after some more steps. -/
def writeAll (page : Page) : List Step → Except Fault Page
  | [] => .ok page
  | step :: steps =>
    match page.write step with
    | .error fault => .error fault
    | .ok next => next.writeAll steps

/-- The text of a page on which no brace is open. -/
def finish (page : Page) : Except Fault String :=
  if page.depth = 0 then .ok page.text else .error (.leftOpen page.depth)

end Page

/-- The text that steps make. -/
def render (steps : List Step) : Except Fault String :=
  match Page.empty.writeAll steps with
  | .error fault => .error fault
  | .ok page => page.finish

end TypedClients.Layout
