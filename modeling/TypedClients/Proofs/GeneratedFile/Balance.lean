import TypedClients.GeneratedFile
import TypedClients.Proofs.CSharp.Printer

/-!
# Every class has a file

Generation cannot fail. The steps of a file are balanced whatever its declarations and statements
are, so no brace is closed that is not open, and none is left open at the end. The only fault that
the generation of a class knows is one of the layout, and it never comes up.

The statements are all that the syntax has, not just those of generated clients: a guard may have a
handler, a cleanup, both or neither of them, and any list of statements may be empty. That the steps
of each are balanced is shown beside the printer, by recursion over the statements; here they meet
the page that takes them.
-/

namespace TypedClients

open CSharp Layout

/-- A file of any declarations has a text. -/
theorem exists_source (file : CompilationUnit) : ∃ text, file.source = .ok text :=
  file.balanced.render

/-- The file of a class holds the text of its client, under the name of the class. -/
theorem exists_generateClient (declared : ClassDeclaration) (defaults : Defaults) :
    ∃ text, (Generation.clientUnit (Extraction.extractClient declared defaults)).source =
        .ok text ∧
      generateClient declared defaults = .ok
        { file := { name := declared.name ++ "_Generated.g.cs", text }
          diagnostics := Extraction.diagnostics (Extraction.extractClient declared defaults) } := by
  obtain ⟨text, printed⟩ :=
    exists_source (Generation.clientUnit (Extraction.extractClient declared defaults))
  refine ⟨text, printed, ?_⟩
  rw [generateClient]
  simp only [printed]
  rfl

/-- A page takes all steps that are put together from lines and bodies between braces, and those of
every statement, and is as deep behind them as before: the text grows and nothing of it is taken
back. Every file has a text, whatever stands in it, so that a file is generated for every class and
all defaults, and the fault of the layout does not come up. -/
theorem generation_is_balanced :
    (∀ steps, Balanced steps → ∀ page : Page,
        ∃ text, page.writeAll steps = .ok ⟨page.text ++ text, page.depth⟩) ∧
      (∀ (stmt : Stmt) (page : Page),
        ∃ text, page.writeAll stmt.steps = .ok ⟨page.text ++ text, page.depth⟩) ∧
      (∀ file : CompilationUnit, ∃ text, file.source = .ok text) ∧
      ∀ (declared : ClassDeclaration) (defaults : Defaults),
        ∃ client, generateClient declared defaults = .ok client := by
  refine ⟨fun steps balanced => balanced.writeAll, fun stmt => stmt.balanced.writeAll,
    exists_source, fun declared defaults => ?_⟩
  obtain ⟨text, _, generated⟩ := exists_generateClient declared defaults
  exact ⟨_, generated⟩

/-- A guard without a handler, and with a cleanup in which nothing stands, inside a condition. -/
def bareGuard : Stmt :=
  .whenTrue (.name "ready")
    [.guarded [.evaluate (.callName "Send" []), .blank] none (some [])]

/-- The guard has braces for its cleanup although nothing stands between them, and none for a
handler. Its steps are balanced, and it leaves a page at the depth of the condition, both as a list
of steps and as a statement. -/
theorem bareGuard_is_laid_out :
    bareGuard.steps = .line "if (ready)" :: braced
        (.line "try" :: braced [.line "Send();", .blank] ++ .line "finally" :: braced []) ∧
      Balanced bareGuard.steps ∧
      (∃ text, Page.writeAll ⟨"namespace Store", 3⟩ (bareGuard.steps ++ bareGuard.steps) =
        .ok ⟨"namespace Store" ++ text, 3⟩) ∧
      ∃ text, Page.writeAll ⟨"namespace Store", 3⟩ bareGuard.steps =
        .ok ⟨"namespace Store" ++ text, 3⟩ := by
  have printed : bareGuard.steps = .line "if (ready)" :: braced
      (.line "try" :: braced [.line "Send();", .blank] ++ .line "finally" :: braced []) := by
    rfl
  have sent : Balanced [.line "Send();", .blank] := Balanced.blank.cons_line _
  have balanced : Balanced bareGuard.steps := by
    rw [printed]
    exact balanced_headed _
      ((balanced_headed "try" sent).append (balanced_headed "finally" .empty))
  exact ⟨printed, balanced, generation_is_balanced.1 _ (balanced.append balanced) _,
    generation_is_balanced.2.1 bareGuard _⟩

end TypedClients
