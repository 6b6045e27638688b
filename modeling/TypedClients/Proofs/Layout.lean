import TypedClients.Layout

/-!
# Balanced steps

Steps are balanced when they are put together from lines, empty lines, and balanced steps between
braces. A page can take balanced steps to the last one, whatever is on it, and has as many open
braces behind them as before. So a text of balanced steps is always finished.

The induction is on how the steps are put together, and is the only one over steps: what is printed
is shown to be balanced once, and then has a text.
-/

namespace TypedClients.Layout

/-- Steps that close every brace that they open, and no other. -/
inductive Balanced : List Step → Prop where
  | empty : Balanced []
  | line (text : String) : Balanced [.line text]
  | blank : Balanced [.blank]
  | braced {steps : List Step} (inner : Balanced steps) :
      Balanced (.opening :: steps ++ [.closing])
  | append {first second : List Step} (before : Balanced first) (behind : Balanced second) :
      Balanced (first ++ second)

namespace Page

/-- Steps that follow one another are taken one after the other, and the first step that cannot be
written ends the writing, in whichever part it is. -/
theorem writeAll_append (page : Page) (first second : List Step) :
    page.writeAll (first ++ second) =
      (page.writeAll first).bind fun next => next.writeAll second := by
  induction first generalizing page with
  | nil => rfl
  | cons step first inductionHypothesis =>
    simp only [List.cons_append, writeAll]
    cases page.write step with
    | error fault => rfl
    | ok next => exact inductionHypothesis next

/-- A page that can take the first steps goes on from there. -/
theorem writeAll_append_of_ok {page next : Page} {first : List Step}
    (taken : page.writeAll first = .ok next) (second : List Step) :
    page.writeAll (first ++ second) = next.writeAll second := by
  rw [writeAll_append, taken]
  rfl

end Page

namespace Balanced

/-- A line in front of balanced steps. -/
theorem cons_line (text : String) {steps : List Step} (behind : Balanced steps) :
    Balanced (.line text :: steps) :=
  (Balanced.line text).append behind

/-- An empty line in front of balanced steps. -/
theorem cons_blank {steps : List Step} (behind : Balanced steps) : Balanced (.blank :: steps) :=
  Balanced.blank.append behind

/-- A line for each of some items. -/
theorem lines {Item : Type} (print : Item → String) (items : List Item) :
    Balanced (items.map fun item => .line (print item)) := by
  induction items with
  | nil => exact .empty
  | cons item items inductionHypothesis => exact inductionHypothesis.cons_line (print item)

/-- Balanced parts with an empty line between each two are balanced together, as an empty line opens
and closes nothing. -/
theorem interspersed {parts : List (List Step)} (each : ∀ steps ∈ parts, Balanced steps) :
    Balanced (parts.intersperse [.blank]).flatten := by
  induction parts with
  | nil => exact .empty
  | cons steps others inductionHypothesis =>
    have own := each steps List.mem_cons_self
    have behind := inductionHypothesis fun other member =>
      each other (List.mem_cons_of_mem _ member)
    cases others with
    | nil => simpa using own
    | cons next others => exact own.append (behind.cons_blank)

/-- A page takes balanced steps to the last one. They add some text, and leave as many braces open
as were open before. -/
theorem writeAll {steps : List Step} (balanced : Balanced steps) (page : Page) :
    ∃ text, page.writeAll steps = .ok ⟨page.text ++ text, page.depth⟩ := by
  induction balanced generalizing page with
  | empty => exact ⟨"", by simp [Page.writeAll]⟩
  | line text => exact ⟨linesAt page.depth text, rfl⟩
  | blank => exact ⟨"\n", rfl⟩
  | @braced steps _ inner =>
    obtain ⟨text, taken⟩ :=
      inner ⟨page.text ++ linesAt page.depth "\x7b", page.depth + 1⟩
    refine ⟨linesAt page.depth "\x7b" ++ text ++ linesAt page.depth "\x7d", ?_⟩
    rw [List.cons_append, Page.writeAll, Page.write]
    simp only [Page.writeAll_append_of_ok taken, Page.writeAll, Page.write, String.append_assoc]
  | append _ _ before behind =>
    obtain ⟨first, taken⟩ := before page
    obtain ⟨second, left⟩ := behind ⟨page.text ++ first, page.depth⟩
    refine ⟨first ++ second, ?_⟩
    rw [Page.writeAll_append_of_ok taken, left, String.append_assoc]

/-- Balanced steps make a finished text. -/
theorem render {steps : List Step} (balanced : Balanced steps) :
    ∃ text, Layout.render steps = .ok text := by
  obtain ⟨text, taken⟩ := balanced.writeAll Page.empty
  refine ⟨Page.empty.text ++ text, ?_⟩
  rw [Layout.render, taken]
  rfl

end Balanced

end TypedClients.Layout
