import TypedClients.CSharp.Printer
import TypedClients.Proofs.Layout

/-!
# Printed code is balanced

A statement prints to balanced steps, whatever statements stand inside it and however deep, and
so does every declaration. The only braces that are opened are those around a body, and they are
closed behind it. So each statement leaves a page at the depth at which it was written, and every
file has a text.

The induction goes through the optional handler and cleanup of a guarded statement as through its
body, and a statement without any of them is balanced too. What is proved is about every tree,
whether anything generates it or not.
-/

namespace TypedClients.CSharp

open Layout

/-- Steps between braces are balanced when they are balanced themselves. -/
theorem balanced_braced {steps : List Step} (inner : Balanced steps) : Balanced (braced steps) :=
  .braced inner

/-- A heading with a body. -/
theorem balanced_headed (heading : String) {body : List Step} (inner : Balanced body) :
    Balanced (.line heading :: braced body) :=
  (balanced_braced inner).cons_line heading

mutual

/-- A statement prints to balanced steps. The induction is on the statement, with the bodies in it,
its handler and its cleanup, of which each may be missing or empty. -/
theorem Stmt.balanced (stmt : Stmt) : Balanced stmt.steps := by
  cases stmt with
  | declare name init => exact .line _
  | assign target value => exact .line _
  | evaluate value => exact .line _
  | giveBack value => exact .line _
  | rethrow => exact .line _
  | whenTrue condition body => exact balanced_headed _ (balanced_bodySteps body)
  | withResource name init body => exact balanced_headed _ (balanced_bodySteps body)
  | forEach item items body => exact balanced_headed _ (balanced_bodySteps body)
  | block body => exact balanced_braced (balanced_bodySteps body)
  | guarded body handler cleanup =>
    have tried := balanced_headed "try" (balanced_bodySteps body)
    -- The handler and the cleanup may be missing, each without the other.
    refine (tried.append ?_).append ?_
    · obtain _ | ⟨exceptionType, caught, handler⟩ := handler
      · exact .empty
      · exact balanced_headed _ (balanced_bodySteps handler)
    · cases cleanup with
      | none => exact .empty
      | some cleanup => exact balanced_headed "finally" (balanced_bodySteps cleanup)
  | blank => exact .blank

/-- Statements one after the other print to balanced steps. -/
theorem balanced_bodySteps (body : List Stmt) : Balanced (bodySteps body) := by
  cases body with
  | nil => exact .empty
  | cons stmt body => exact (Stmt.balanced stmt).append (balanced_bodySteps body)

end

/-- A method is balanced: a heading, and the steps of its body in braces. -/
theorem MethodDef.balanced (method : MethodDef) : Balanced method.steps :=
  balanced_headed _ (balanced_bodySteps method.body)

/-- An interface is balanced: a heading, and a line for each member in braces. -/
theorem Interface.balanced (interface : Interface) : Balanced interface.steps :=
  balanced_headed _ (.lines Prototype.print interface.members)

/-- The sections of a class: its fields, each method, and its partial methods. -/
def Class.sections (definition : Class) : List (List Step) :=
  definition.fields.map (fun field => .line (field ++ ";"))
    :: definition.methods.map MethodDef.steps
    ++ [definition.partialMethods.map fun prototype => .line prototype.print]

/-- A class has three kinds of sections: one for all fields, one for each method, and one for all
partial methods. -/
theorem Class.mem_sections {definition : Class} {steps : List Step} :
    steps ∈ definition.sections ↔
      steps = definition.fields.map (fun field => .line (field ++ ";")) ∨
        (∃ method ∈ definition.methods, method.steps = steps) ∨
        steps = definition.partialMethods.map fun prototype => .line prototype.print := by
  simp [sections]

/-- A class is balanced, as its sections are and empty lines between them change nothing. -/
theorem Class.balanced (definition : Class) : Balanced definition.steps := by
  refine balanced_headed _ (.interspersed fun steps member => ?_)
  rcases Class.mem_sections.mp (List.mem_filter.mp member).1 with
    rfl | ⟨method, _, rfl⟩ | rfl
  · exact .lines (· ++ ";") definition.fields
  · exact method.balanced
  · exact .lines Prototype.print definition.partialMethods

/-- A file is balanced, with a namespace around its types and without one. The braces of the
namespace are opened and closed under the same condition. -/
theorem CompilationUnit.balanced (file : CompilationUnit) : Balanced file.steps := by
  have types : Balanced file.typeSteps :=
    file.interface.balanced.append (file.body.balanced.cons_blank)
  have usings : Balanced (file.usings.map fun name => Step.line ("using " ++ name ++ ";")) :=
    .lines (fun name => "using " ++ name ++ ";") file.usings
  refine .append (usings.cons_line generatedHeader) (.cons_blank ?_)
  by_cases everywhere : file.scope.isEmpty
  · rw [if_pos everywhere]
    exact types
  · rw [if_neg everywhere]
    exact balanced_headed _ types

end TypedClients.CSharp
