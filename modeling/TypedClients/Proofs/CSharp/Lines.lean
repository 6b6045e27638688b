import TypedClients.CSharp.Word
import TypedClients.Proofs.CSharp.LineEnds
import TypedClients.Proofs.CSharp.Printer
import TypedClients.Proofs.Layout.Lines

/-!
# The lines of printed code

An expression prints to one line when its names, types and formats do: literal text has its line
feeds escaped. So each statement prints to plain lines and bodies between braces, and empty lines
come about only where a body or a class puts one between two of its parts.

`Neat` is proved from the inside to the outside. Each form of expression keeps a line unbroken when
its parts are, each form of statement is neat when its expressions are unbroken and its bodies neat,
and a unit is plain when its declarations are. What a unit looks like on the page is then the same
for every plain one: its lines and their indentation come from `Layout`, and only which of its
sections are there is left open.
-/

namespace TypedClients.CSharp

open Layout Text

/-! ## Expressions -/

/-- Escaped text holds no line feed. -/
theorem unbroken_escaped (text : String) : Unbroken (escaped text) := by
  intro broken
  have feed : '\n' ∈ lineEnds := by simp [lineEnds]
  obtain ⟨rare, _⟩ := (lineEnd_mem_escaped feed text).mp broken
  simp [rareLineEnds] at rare

/-- Doubling the braces of a text adds no line feed. -/
theorem unbroken_escapedInterpolated (text : String) : Unbroken (escapedInterpolated text) :=
  fun broken => unbroken_escaped text ((mem_escapedInterpolated text).mp broken)

/-- A text literal stays on its line whatever is in the text, as a line feed in it is printed as an
escape sequence. -/
theorem unbroken_text (value : String) : Unbroken (Expr.text value).print :=
  (Unbroken.append (.of_chars (by decide)) (unbroken_escaped value)).append (.of_chars (by decide))

/-- A character literal stays on its line unless the character is a line feed, which is printed as
it is. -/
theorem unbroken_char {value : Char} (visible : value ≠ '\n') :
    Unbroken (Expr.literal (.char value)).print := by
  simp [Unbroken, Expr.print, Literal.print, Ne.symm visible]

/-- A number stays on its line. -/
theorem unbroken_int (value : Nat) : Unbroken (Expr.literal (.int value)).print :=
  .toString_nat value

/-- A name stays on its line when it was given on one. -/
theorem unbroken_name {path : String} (named : Unbroken path) : Unbroken (Expr.name path).print :=
  named

/-- A name is escaped by a mark in front of it. -/
theorem unbroken_escapedIdentifier {name : String} (named : Unbroken name) :
    Unbroken (escapedIdentifier name) := by
  unfold escapedIdentifier
  split_ifs
  · exact .append (.of_chars (by decide)) named
  · exact named

/-- A hole, with its format if it has one. -/
theorem unbroken_hole {name : String} {format : Option String} (named : Unbroken name)
    (formatted : ∀ text ∈ format, Unbroken text) :
    Unbroken (InterpolationPart.hole name format).print := by
  have opened : Unbroken ("\x7b" ++ name) := .append (.of_chars (by decide)) named
  cases format with
  | none => exact opened.append (.of_chars (by decide))
  | some text =>
    have separated := opened.append (.of_chars (by decide) : Unbroken ":")
    exact (separated.append (formatted text rfl)).append (.of_chars (by decide))

/-- An interpolated string stays on its line when each of its parts does. Its text is escaped, while
formats and expressions are printed as they are. -/
theorem unbroken_interpolated {parts : List InterpolationPart}
    (each : ∀ part ∈ parts, Unbroken part.print) :
    Unbroken (Expr.interpolated parts).print := by
  have content : Unbroken (String.join (parts.map InterpolationPart.print)) := by
    refine .join fun text member => ?_
    obtain ⟨part, present, rfl⟩ := List.mem_map.mp member
    exact each part present
  exact (Unbroken.append (.of_chars (by decide)) content).append (.of_chars (by decide))

/-- Expressions with a comma between each two stay on their line when each of them does. -/
theorem unbroken_arguments {arguments : List Expr}
    (each : ∀ argument ∈ arguments, Unbroken argument.print) :
    Unbroken (String.intercalate ", " (printAll arguments)) := by
  refine .intercalate (.of_chars (by decide)) fun text member => ?_
  induction arguments with
  | nil => exact absurd member List.not_mem_nil
  | cons argument others inductionHypothesis =>
    rcases List.mem_cons.mp member with rfl | member
    · exact each argument List.mem_cons_self
    · exact inductionHypothesis (fun other own => each other (List.mem_cons_of_mem _ own)) member

/-- An access to a member stays on its line when the object does and the name of the member is given
on one. -/
theorem unbroken_member {object : Expr} {name : String} (of : Unbroken object.print)
    (named : Unbroken name) : Unbroken (Expr.member object name).print :=
  (of.append (.of_chars (by decide))).append named

/-- A call stays on its line when what is called does, and each type argument and each argument. -/
theorem unbroken_call {callee : Expr} {types : List String} {arguments : List Expr}
    (called : Unbroken callee.print) (typed : ∀ type ∈ types, Unbroken type)
    (each : ∀ argument ∈ arguments, Unbroken argument.print) :
    Unbroken (Expr.call callee types arguments).print := by
  have brackets : Unbroken (printTypeArguments types) := by
    cases types with
    | nil => exact .of_chars (by decide)
    | cons type others =>
      have inside : Unbroken (String.intercalate ", " (type :: others)) :=
        .intercalate (.of_chars (by decide)) typed
      exact (Unbroken.append (.of_chars (by decide)) inside).append (.of_chars (by decide))
  have opened := (called.append brackets).append (.of_chars (by decide) : Unbroken "(")
  exact (opened.append (unbroken_arguments each)).append (.of_chars (by decide))

/-- A call of a member stays on its line when the object and the arguments do, and the name is given
on one. -/
theorem unbroken_callMember {object : Expr} {name : String} {arguments : List Expr}
    (of : Unbroken object.print) (named : Unbroken name)
    (each : ∀ argument ∈ arguments, Unbroken argument.print) :
    Unbroken (Expr.callMember object name arguments).print :=
  unbroken_call (unbroken_member of named) (by simp) each

/-- A call by name stays on its line when the arguments do, and the name is given on one. -/
theorem unbroken_callName {name : String} {arguments : List Expr} (named : Unbroken name)
    (each : ∀ argument ∈ arguments, Unbroken argument.print) :
    Unbroken (Expr.callName name arguments).print :=
  unbroken_call named (by simp) each

/-- An element by its index stays on its line when the object does. -/
theorem unbroken_element {object : Expr} (index : Nat) (of : Unbroken object.print) :
    Unbroken (Expr.element object index).print :=
  ((of.append (.of_chars (by decide))).append (.toString_nat index)).append (.of_chars (by decide))

/-- The creation of an object stays on its line when the arguments do, and the type is given on one.
-/
theorem unbroken_create {type : String} {arguments : List Expr} (typed : Unbroken type)
    (each : ∀ argument ∈ arguments, Unbroken argument.print) :
    Unbroken (Expr.create type arguments).print := by
  have opened := (Unbroken.append (.of_chars (by decide) : Unbroken "new ") typed).append
    (.of_chars (by decide) : Unbroken "(")
  exact (opened.append (unbroken_arguments each)).append (.of_chars (by decide))

/-- An array of given items stays on its line when each of them does. -/
theorem unbroken_createArray {items : List Expr} (each : ∀ item ∈ items, Unbroken item.print) :
    Unbroken (Expr.createArray items).print :=
  (Unbroken.append (.of_chars (by decide)) (unbroken_arguments each)).append (.of_chars (by decide))

/-- What is awaited stays on its line with the word before it. -/
theorem unbroken_await {operand : Expr} (given : Unbroken operand.print) :
    Unbroken (Expr.await operand).print :=
  .append (.of_chars (by decide)) given

/-- A negation, with parentheses and without. -/
theorem unbroken_not {operand : Expr} (given : Unbroken operand.print) :
    Unbroken (Expr.not operand).print := by
  rw [Expr.print]
  split_ifs
  · exact (Unbroken.append (.of_chars (by decide)) given).append (.of_chars (by decide))
  · exact .append (.of_chars (by decide)) given

/-- Two operands with an operator between them stay on their line when both do. No operator is
printed with a line feed. -/
theorem unbroken_binary {left right : Expr} (op : BinaryOp) (before : Unbroken left.print)
    (behind : Unbroken right.print) : Unbroken (Expr.binary left op right).print := by
  have operator : Unbroken op.print := by
    cases op with
    | bitOr => exact .of_chars (by decide)
    | greater => exact .of_chars (by decide)
    | equal => exact .of_chars (by decide)
    | and => exact .of_chars (by decide)
  have spaced := (before.append (.of_chars (by decide) : Unbroken " ")).append operator
  exact (spaced.append (.of_chars (by decide))).append behind

/-- A check for null stays on its line when its operand does. -/
theorem unbroken_isNotNull {operand : Expr} (given : Unbroken operand.print) :
    Unbroken (Expr.isNotNull operand).print :=
  given.append (.of_chars (by decide))

/-- A choice stays on its line when its condition and both of its branches do. -/
theorem unbroken_conditional {condition yes no : Expr} (tested : Unbroken condition.print)
    (chosen : Unbroken yes.print) (other : Unbroken no.print) :
    Unbroken (Expr.conditional condition yes no).print := by
  have asked := (tested.append (.of_chars (by decide) : Unbroken " ? ")).append chosen
  exact (asked.append (.of_chars (by decide))).append other

/-! A statement that is an expression begins as the expression does. -/

/-- An access to a member begins like its object, so it is a plain line when the object is one and
the name stays on it. -/
theorem plainLine_member {object : Expr} {name : String} (of : PlainLine object.print)
    (named : Unbroken name) : PlainLine (Expr.member object name).print :=
  (of.append (.of_chars (by decide))).append named

/-- A call begins like what is called, so it is a plain line when that is one and the arguments stay
on it. -/
theorem plainLine_call {callee : Expr} {arguments : List Expr} (called : PlainLine callee.print)
    (each : ∀ argument ∈ arguments, Unbroken argument.print) :
    PlainLine (Expr.call callee [] arguments).print := by
  have opened := (called.append (.of_chars (by decide) : Unbroken "")).append
    (.of_chars (by decide) : Unbroken "(")
  exact (opened.append (unbroken_arguments each)).append (.of_chars (by decide))

/-! ## Statements -/

/-- A body in braces under a heading is neat when the body is, and the heading is a plain line. -/
theorem neat_headed {heading : String} {body : List Step} (plain : PlainLine heading)
    (inner : Neat body) : Neat (.line heading :: braced body) :=
  .append (.line plain) (.braced inner)

/-- A declaration is neat when its name and its value stay on their line: it begins with a word. -/
theorem neat_declare {name : String} {init : Expr} (named : Unbroken name)
    (given : Unbroken init.print) : Neat (Stmt.declare name init).steps := by
  have word : PlainLine "var " := .of_chars (by decide) (by decide)
  have defined := ((word.append named).append (.of_chars (by decide) : Unbroken " = ")).append given
  exact .line (defined.append (.of_chars (by decide)))

/-- An assignment begins like its target, so it is neat when that is a plain line and the value
stays on it. -/
theorem neat_assign {target value : Expr} (assigned : PlainLine target.print)
    (given : Unbroken value.print) : Neat (Stmt.assign target value).steps := by
  have defined := (assigned.append (.of_chars (by decide) : Unbroken " = ")).append given
  exact .line (defined.append (.of_chars (by decide)))

/-- An expression as a statement begins like the expression, so it is neat when that is a plain
line. -/
theorem neat_evaluate {value : Expr} (given : PlainLine value.print) :
    Neat (Stmt.evaluate value).steps :=
  .line (given.append (.of_chars (by decide)))

/-- A return is neat when its value stays on its line: it begins with a word. -/
theorem neat_giveBack {value : Expr} (given : Unbroken value.print) :
    Neat (Stmt.giveBack value).steps := by
  have word : PlainLine "return " := .of_chars (by decide) (by decide)
  exact .line ((word.append given).append (.of_chars (by decide)))

/-- A repeated throw is neat. -/
theorem neat_rethrow : Neat Stmt.rethrow.steps :=
  .line (.of_chars (by decide) (by decide))

/-- A condition with a body is neat when the body is, and the condition stays on its line. -/
theorem neat_whenTrue {condition : Expr} {body : List Stmt} (tested : Unbroken condition.print)
    (inner : Neat (bodySteps body)) : Neat (Stmt.whenTrue condition body).steps := by
  have word : PlainLine "if (" := .of_chars (by decide) (by decide)
  exact neat_headed ((word.append tested).append (.of_chars (by decide))) inner

/-- A resource with a body is neat when the body is, and its name and its value stay on their line.
-/
theorem neat_withResource {name : String} {init : Expr} {body : List Stmt} (named : Unbroken name)
    (given : Unbroken init.print) (inner : Neat (bodySteps body)) :
    Neat (Stmt.withResource name init body).steps := by
  have word : PlainLine "using (var " := .of_chars (by decide) (by decide)
  have defined := ((word.append named).append (.of_chars (by decide) : Unbroken " = ")).append given
  exact neat_headed (defined.append (.of_chars (by decide))) inner

/-- A loop with a body is neat when the body is, and the name and the items stay on their line. -/
theorem neat_forEach {item : String} {items : Expr} {body : List Stmt} (named : Unbroken item)
    (given : Unbroken items.print) (inner : Neat (bodySteps body)) :
    Neat (Stmt.forEach item items body).steps := by
  have word : PlainLine "foreach (var " := .of_chars (by decide) (by decide)
  have taken := ((word.append named).append (.of_chars (by decide) : Unbroken " in ")).append given
  exact neat_headed (taken.append (.of_chars (by decide))) inner

/-- A block is neat when its body is, with a brace on the line before it and on the line behind it.
-/
theorem neat_block {body : List Stmt} (inner : Neat (bodySteps body)) :
    Neat (Stmt.block body).steps :=
  .braced inner

/-- A guarded statement is neat when its bodies are, with a handler and without, with a cleanup and
without. What makes it neat is the heading in front of each body. -/
theorem neat_guarded {body handler : List Stmt} {exceptionType caught : String}
    {cleanup : Option (List Stmt)} (tried : Neat (bodySteps body))
    (typed : Unbroken exceptionType) (named : Unbroken caught) (handled : Neat (bodySteps handler))
    (cleaned : ∀ stmts ∈ cleanup, Neat (bodySteps stmts)) :
    Neat (Stmt.guarded body (some ⟨exceptionType, caught, handler⟩) cleanup).steps := by
  have first : Neat (.line "try" :: braced (bodySteps body)) :=
    neat_headed (.of_chars (by decide) (by decide)) tried
  have word : PlainLine "catch (" := .of_chars (by decide) (by decide)
  have caughtAs := (word.append typed).append
    (.of_chars (by decide) : Unbroken " ")
  have second : Neat (handlerSteps (some ⟨exceptionType, caught, handler⟩)) :=
    neat_headed ((caughtAs.append named).append (.of_chars (by decide))) handled
  refine (first.append second).append ?_
  cases cleanup with
  | none => exact .empty
  | some stmts =>
    have third : Neat (.line "finally" :: braced (bodySteps stmts)) :=
      neat_headed (.of_chars (by decide) (by decide)) (cleaned stmts rfl)
    exact third

/-- Every statement makes a step. -/
theorem steps_ne_nil (stmt : Stmt) : stmt.steps ≠ [] := by
  cases stmt <;> exact List.cons_ne_nil _ _

/-- Statements have steps: none of them, not even the empty line, is printed as nothing. -/
theorem bodySteps_ne_nil {body : List Stmt} (filled : body ≠ []) : bodySteps body ≠ [] := by
  cases body with
  | nil => exact absurd rfl filled
  | cons stmt body => exact List.append_ne_nil_of_left_ne_nil (steps_ne_nil stmt) _

/-- The steps of statements are those of the first of them, then those of the others. -/
theorem bodySteps_append (first second : List Stmt) :
    bodySteps (first ++ second) = bodySteps first ++ bodySteps second := by
  induction first with
  | nil => rfl
  | cons stmt first inductionHypothesis =>
    simp only [List.cons_append, bodySteps, inductionHypothesis, List.append_assoc]

/-- A body of neat statements is neat, one after the other. An empty line is no neat statement by
itself; it has to be put between two parts. -/
theorem neat_body {body : List Stmt} (each : ∀ stmt ∈ body, Neat stmt.steps) :
    Neat (bodySteps body) := by
  induction body with
  | nil => exact .empty
  | cons stmt body inductionHypothesis =>
    have own := each stmt List.mem_cons_self
    have others := inductionHypothesis fun other member =>
      each other (List.mem_cons_of_mem _ member)
    exact own.append others

/-- An empty line between statements. -/
theorem neat_body_apart {first second : List Stmt} (before : Neat (bodySteps first))
    (behind : Neat (bodySteps second)) (before_filled : first ≠ []) (behind_filled : second ≠ []) :
    Neat (bodySteps (first ++ .blank :: second)) := by
  rw [bodySteps_append]
  exact before.apart behind (bodySteps_ne_nil before_filled) (bodySteps_ne_nil behind_filled)

/-! ## Declarations -/

/-- The head of a method goes on behind the type that it returns, with nothing that breaks the line:
its name and its parameters are on one. -/
theorem exists_behind_returnType {signature : Signature} (named : Unbroken signature.name)
    (taken : ∀ param ∈ signature.params, Unbroken param.print) :
    ∃ behind, Unbroken behind ∧ signature.print = signature.returnType ++ behind := by
  have params : Unbroken (String.intercalate ", " (signature.params.map Param.print)) := by
    refine .intercalate (.of_chars (by decide)) fun text member => ?_
    obtain ⟨param, present, rfl⟩ := List.mem_map.mp member
    exact taken param present
  have head := (Unbroken.append (.of_chars (by decide) : Unbroken " ") named).append
    (.of_chars (by decide) : Unbroken "(")
  have behind := (head.append params).append (.of_chars (by decide) : Unbroken ")")
  exact ⟨_, behind, by simp only [Signature.print, String.append_assoc]⟩

/-- A prototype without modifiers begins with the type that it returns. -/
theorem plainLine_member_prototype {signature : Signature} (typed : PlainLine signature.print) :
    PlainLine (Prototype.mk "" signature).print :=
  typed.append (.of_chars (by decide))

/-- A declaration for each of some items is neat when each of them is a plain line, such as the
members of an interface. -/
theorem neat_lines {Item : Type} {print : Item → String} {items : List Item}
    (each : ∀ item ∈ items, PlainLine (print item)) :
    Neat (items.map fun item => .line (print item)) := by
  induction items with
  | nil => exact .empty
  | cons item items inductionHypothesis =>
    have own : Neat [.line (print item)] := .line (each item List.mem_cons_self)
    have others := inductionHypothesis fun other member =>
      each other (List.mem_cons_of_mem _ member)
    exact own.append others

/-- What the declarations of a file have to be for its lines to be those of its layout: each begins
as code does, and stays on its line. -/
structure CompilationUnit.Plain (file : CompilationUnit) : Prop where
  usings : ∀ name ∈ file.usings, Unbroken name
  scope : Unbroken file.scope
  interfaceName : Unbroken file.interface.name
  members : ∀ prototype ∈ file.interface.members, PlainLine prototype.print
  className : Unbroken file.body.name
  bases : ∀ base ∈ file.body.bases, Unbroken base
  fields : ∀ field ∈ file.body.fields, PlainLine (field ++ ";")
  methods : ∀ method ∈ file.body.methods, Neat method.steps
  partialMethods : ∀ prototype ∈ file.body.partialMethods, PlainLine prototype.print

/-- A file with the names of another one and some of its declarations. -/
structure CompilationUnit.DrawnFrom (part file : CompilationUnit) : Prop where
  scope : part.scope = file.scope
  interfaceName : part.interface.name = file.interface.name
  className : part.body.name = file.body.name
  usings : part.usings ⊆ file.usings
  members : part.interface.members ⊆ file.interface.members
  bases : part.body.bases ⊆ file.body.bases
  fields : part.body.fields ⊆ file.body.fields
  methods : part.body.methods ⊆ file.body.methods
  partialMethods : part.body.partialMethods ⊆ file.body.partialMethods

/-- Which lists of a file are emptied. -/
structure Emptied where
  usings : Bool
  members : Bool
  bases : Bool
  fields : Bool
  methods : Bool
  partialMethods : Bool

/-- A file with some of its lists emptied. -/
def CompilationUnit.emptied (file : CompilationUnit) (lists : Emptied) : CompilationUnit where
  usings := if lists.usings then [] else file.usings
  scope := file.scope
  interface :=
    { name := file.interface.name
      members := if lists.members then [] else file.interface.members }
  body :=
    { name := file.body.name
      bases := if lists.bases then [] else file.body.bases
      fields := if lists.fields then [] else file.body.fields
      methods := if lists.methods then [] else file.body.methods
      partialMethods := if lists.partialMethods then [] else file.body.partialMethods }

/-- Nothing is put in place of what is emptied. -/
theorem CompilationUnit.emptied_drawnFrom (file : CompilationUnit) (lists : Emptied) :
    (file.emptied lists).DrawnFrom file := by
  have kept {Item : Type} (empty : Bool) (items : List Item) :
      (if empty then [] else items) ⊆ items := by
    cases empty with
    | true => exact List.nil_subset items
    | false => exact List.Subset.refl items
  exact ⟨rfl, rfl, rfl, kept _ _, kept _ _, kept _ _, kept _ _, kept _ _, kept _ _⟩

/-- Declarations that are left out do not matter: each one that is left is as plain as it was. -/
theorem CompilationUnit.Plain.drawn {part file : CompilationUnit} (plain : file.Plain)
    (drawn : part.DrawnFrom file) : part.Plain where
  usings name member := plain.usings name (drawn.usings member)
  scope := drawn.scope ▸ plain.scope
  interfaceName := drawn.interfaceName ▸ plain.interfaceName
  members prototype member := plain.members prototype (drawn.members member)
  className := drawn.className ▸ plain.className
  bases base member := plain.bases base (drawn.bases member)
  fields field member := plain.fields field (drawn.fields member)
  methods method member := plain.methods method (drawn.methods member)
  partialMethods prototype member := plain.partialMethods prototype (drawn.partialMethods member)

/-- The lines of a class at a depth: its heading, and its sections between braces with one empty
line between each two. A section is what its steps make, and is there when there are any. -/
def Class.SetOut (definition : Class) (depth : Nat) (lines : List (List Char)) : Prop :=
  ∃ heading sections,
    List.Forall₂ (Layout.SetOut (depth + 1))
        (definition.sections.filter fun steps => !steps.isEmpty) sections ∧
      lines = heading :: (indentedLine depth ['{'] :: [[]].intercalate sections
        ++ [indentedLine depth ['}']])

/-- The lines of a file. -/
structure CompilationUnit.LaidOut (file : CompilationUnit) (lines : List (List Char)) : Prop where
  unbroken : ∀ line ∈ lines, '\n' ∉ line
  indented : Indented 0 lines
  spaced : lines.IsChain Follows
  /-- The last line is a closing brace without indentation. -/
  ends : lines.getLast? = some ['}']
  separated : ∃ before depth own behind, file.body.SetOut depth own ∧
    lines = before ++ own ++ behind

namespace CompilationUnit

variable {file : CompilationUnit}

/-- The heading of the class in a plain file is a plain line, as it begins with a word and its name
stays on it. -/
theorem Plain.heading (plain : file.Plain) : PlainLine file.body.heading := by
  have named : PlainLine ("public partial class " ++ file.body.name) :=
    (PlainLine.of_chars (by decide) (by decide)).append plain.className
  unfold Class.heading
  split_ifs
  · exact named
  · have bases : Unbroken (String.intercalate ", " file.body.bases) :=
      .intercalate (.of_chars (by decide)) plain.bases
    exact (named.append (.of_chars (by decide))).append bases

/-- Each section of the class in a plain file is neat: the fields and the partial methods as lines,
and the methods as they were given. -/
theorem Plain.sections (plain : file.Plain) {steps : List Step}
    (member : steps ∈ file.body.sections) : Neat steps := by
  rcases Class.mem_sections.mp member with rfl | ⟨method, own, rfl⟩ | rfl
  · exact neat_lines plain.fields
  · exact plain.methods method own
  · exact neat_lines plain.partialMethods

/-- The class of a file is laid out at every depth: its heading, and between braces its sections, of
which the empty ones are not there. -/
theorem Plain.exists_body (plain : file.Plain) (depth : Nat) :
    ∃ lines, file.body.SetOut depth lines ∧ Layout.SetOut depth file.body.steps lines := by
  have each : ∀ steps ∈ file.body.sections.filter (fun steps => !steps.isEmpty),
      steps ≠ [] ∧ ∃ lines, Layout.SetOut (depth + 1) steps lines := by
    intro steps member
    obtain ⟨present, filled⟩ := List.mem_filter.mp member
    exact ⟨by simpa using filled, (plain.sections present).setOut (depth + 1)⟩
  obtain ⟨start, rest, _, heading⟩ := SetOut.line plain.heading depth
  obtain ⟨sections, separate, inner⟩ := SetOut.interspersed each
  exact ⟨_, ⟨_, sections, separate, rfl⟩, heading.append inner.braced⟩

/-- The types of a file are laid out at every depth, the interface first and the class behind an
empty line. -/
theorem Plain.exists_types (plain : file.Plain) (depth : Nat) :
    ∃ before own, file.body.SetOut depth own ∧
      Layout.SetOut depth file.typeSteps (before ++ own) := by
  have head : PlainLine ("public interface " ++ file.interface.name) :=
    (PlainLine.of_chars (by decide) (by decide)).append plain.interfaceName
  have interface_neat : Neat file.interface.steps := neat_headed head (neat_lines plain.members)
  obtain ⟨before, interface⟩ := interface_neat.setOut depth
  obtain ⟨own, sections, body⟩ := plain.exists_body depth
  refine ⟨before ++ [[]], own, sections, ?_⟩
  have apart := interface.apart body (mt interface.filled (List.cons_ne_nil _ _))
    (mt body.filled (List.cons_ne_nil _ _))
  rwa [List.append_assoc]

/-- The last line of a class is its closing brace. -/
theorem getLast?_of_setOut {definition : Class} {depth : Nat} {lines : List (List Char)}
    (laid : definition.SetOut depth lines) : lines.getLast? = some (indentedLine depth ['}']) := by
  obtain ⟨heading, sections, -, rfl⟩ := laid
  simp [List.getLast?_cons]

/-- The types of a file are laid out at the depth at which they stand: one brace deep in a
namespace, and at the margin outside of any. -/
theorem Plain.exists_inside (plain : file.Plain) :
    ∃ depth before own behind, file.body.SetOut depth own ∧
      (before ++ own ++ behind).getLast? = some ['}'] ∧
      Layout.SetOut 0
        (if file.scope.isEmpty then file.typeSteps
          else .line ("namespace " ++ file.scope) :: braced file.typeSteps)
        (before ++ own ++ behind) := by
  by_cases everywhere : file.scope.isEmpty
  · obtain ⟨before, own, sections, types⟩ := plain.exists_types 0
    refine ⟨0, before, own, [], sections, ?_, ?_⟩
    · simp [getLast?_of_setOut sections, indentedLine]
    · rw [if_pos everywhere, List.append_nil]
      exact types
  · obtain ⟨before, own, sections, types⟩ := plain.exists_types 1
    have head : PlainLine ("namespace " ++ file.scope) :=
      (PlainLine.of_chars (by decide) (by decide)).append plain.scope
    obtain ⟨start, rest, _, heading⟩ := SetOut.line head 0
    have inside := heading.append types.braced
    refine ⟨1, indentedLine 0 (start :: rest) :: indentedLine 0 ['{'] :: before, own, [['}']],
      sections, ?_, ?_⟩
    · rw [List.getLast?_concat]
    · rw [if_neg everywhere]
      simpa [indentedLine, braced] using inside

/-- A file of plain declarations has a text, and its lines are laid out: the header, the imports and
the types, each where the last one has ended. -/
theorem Plain.exists_lines (plain : file.Plain) :
    ∃ text lines, file.source = .ok text ∧ text.toList = unlines lines ∧ file.LaidOut lines := by
  have usings : Neat (.line generatedHeader :: file.usings.map fun name =>
      .line ("using " ++ name ++ ";")) := by
    refine .append (.line (.of_chars (by decide) (by decide))) (neat_lines fun name member => ?_)
    have word : PlainLine "using " := .of_chars (by decide) (by decide)
    exact (word.append (plain.usings name member)).append (.of_chars (by decide))
  obtain ⟨front, front_laid⟩ := usings.setOut 0
  obtain ⟨depth, before, own, behind, sections, last, back_laid⟩ := plain.exists_inside
  have front_filled := mt front_laid.filled (List.cons_ne_nil _ _)
  have back_filled : before ++ own ++ behind ≠ [] := by
    intro none
    simp [none] at last
  have laid := front_laid.apart back_laid front_filled back_filled
  refine ⟨_, _, ?_, String.toList_ofList, laid.unbroken, laid.indented, laid.spaced, ?_, ?_⟩
  · have taken := laid.printed ""
    rw [String.empty_append] at taken
    rw [CompilationUnit.source, CompilationUnit.steps, render, Page.empty, taken]
    rfl
  · rw [List.getLast?_append, List.getLast?_cons, last]
    rfl
  · refine ⟨front ++ [] :: before, depth, own, behind, sections, ?_⟩
    simp only [List.append_assoc, List.cons_append]

end CompilationUnit

end TypedClients.CSharp
