import Mathlib.Data.List.Chain
import TypedClients.Proofs.Layout
import TypedClients.Proofs.Text.Unbroken

/-!
# The lines of a layout

What a page holds is read back line by line. A line that is not empty is indented by four blanks
for each brace that is open in front of it, its own closing brace being no longer open, and an
empty line stands only between two lines neither of which is the brace of a body around it.

`SetOut` says this of the lines of some steps, together with what the steps around them have to
know: all braces are closed again, and neither the first nor the last line is empty or a brace of
another body. It is kept by every way in which generated code puts steps together.
-/

namespace TypedClients.Layout

open Text

/-! ## Lines of a text -/

/-- Lines as a text, with a line feed behind each. -/
def unlines (lines : List (List Char)) : List Char :=
  lines.flatMap (· ++ ['\n'])

/-- Lines behind lines are put together one after the other. -/
@[simp] theorem unlines_append (first second : List (List Char)) :
    unlines (first ++ second) = unlines first ++ unlines second :=
  List.flatMap_append

/-- A single line is put together with its line feed. -/
@[simp] theorem unlines_singleton (line : List Char) : unlines [line] = line ++ ['\n'] := by
  simp [unlines]

/-- A line that is a brace and nothing else, apart from its indentation. -/
def IsBrace (brace : Char) (line : List Char) : Prop :=
  line.dropWhile (· == ' ') = [brace]

instance (brace : Char) (line : List Char) : Decidable (IsBrace brace line) :=
  inferInstanceAs (Decidable (_ = _))

/-- How many lines are a brace. -/
def braceLines (brace : Char) (lines : List (List Char)) : Nat :=
  lines.countP fun line => IsBrace brace line

/-- The braces that stand alone on lines are counted part by part. -/
@[simp] theorem braceLines_append (brace : Char) (first second : List (List Char)) :
    braceLines brace (first ++ second) = braceLines brace first + braceLines brace second :=
  List.countP_append

/-- An empty line is no brace. -/
@[simp] theorem not_isBrace_nil (brace : Char) : ¬ IsBrace brace [] := by
  simp [IsBrace]

/-- Every line is empty, or indented by four blanks for each brace that is open there: for those
that were open before the lines, and for each opening brace before it that has no closing brace
up to and including it. -/
def Indented (depth : Nat) (lines : List (List Char)) : Prop :=
  ∀ before line behind, lines = before ++ line :: behind → line ≠ [] →
    ∃ inside first rest,
      depth + braceLines '{' before = inside + braceLines '}' (before ++ [line]) ∧
        line = List.replicate (4 * inside) ' ' ++ first :: rest ∧ first ≠ ' '

/-- A line may follow another one: neither two empty lines do, nor an empty line an opening brace,
nor a closing brace an empty line. -/
def Follows (line next : List Char) : Prop :=
  (next = [] → line ≠ [] ∧ ¬ IsBrace '{' line) ∧ (line = [] → ¬ IsBrace '}' next)

/-- A line with its indentation. -/
def indentedLine (depth : Nat) (content : List Char) : List Char :=
  List.replicate (4 * depth) ' ' ++ content

/-- The indentation of a line ends where its content begins. -/
theorem isBrace_indentedLine {depth : Nat} {brace first : Char} {rest : List Char}
    (visible : first ≠ ' ') :
    IsBrace brace (indentedLine depth (first :: rest)) ↔ first = brace ∧ rest = [] := by
  have bare : (indentedLine depth (first :: rest)).dropWhile (· == ' ') = first :: rest := by
    rw [indentedLine, List.dropWhile_append_of_pos (by simp)]
    simp [visible]
  rw [IsBrace, bare, List.cons.injEq]

/-- An indented line is a brace if there is nothing but the brace behind the blanks. -/
theorem braceLines_single {depth : Nat} {brace first : Char} {rest : List Char}
    (visible : first ≠ ' ') :
    braceLines brace [indentedLine depth (first :: rest)] =
      if first = brace ∧ rest = [] then 1 else 0 := by
  simp only [braceLines, List.countP_singleton, isBrace_indentedLine visible, decide_eq_true_eq]

/-- A place in lines that stand behind other lines is one among the first or one among the
second. -/
theorem split_append {Item : Type} {first second front back : List Item} {item : Item}
    (split : first ++ second = front ++ item :: back) :
    (∃ middle, first = front ++ item :: middle) ∨
      ∃ middle, front = first ++ middle ∧ second = middle ++ item :: back := by
  rcases List.append_eq_append_iff.mp split with ⟨middle, front_eq, rest⟩ | ⟨middle, rfl, rest⟩
  · exact Or.inr ⟨middle, front_eq, rest⟩
  · cases middle with
    | nil => exact Or.inr ⟨[], by simp, rest.symm⟩
    | cons own middle =>
      obtain ⟨rfl, -⟩ := List.cons.inj rest
      exact Or.inl ⟨middle, rfl⟩

/-- Lines behind other lines are indented when the braces that are left open before them are
counted. -/
theorem Indented.append {outer inner : Nat} {first second : List (List Char)}
    (before : Indented outer first) (behind : Indented inner second)
    (counted : outer + braceLines '{' first = inner + braceLines '}' first) :
    Indented outer (first ++ second) := by
  intro front line back split filled
  rcases split_append split with ⟨middle, own⟩ | ⟨middle, rfl, own⟩
  · exact before front line middle own filled
  · obtain ⟨inside, start, content, depth_eq, spelled, visible⟩ :=
      behind middle line back own filled
    refine ⟨inside, start, content, ?_, spelled, visible⟩
    simp only [List.append_assoc, braceLines_append] at depth_eq ⊢
    omega

/-- One line at a depth: inside the braces that are open, its own closing brace not counted. -/
theorem Indented.single {depth inside : Nat} {first : Char} {rest : List Char}
    (visible : first ≠ ' ')
    (counted : depth = inside + braceLines '}' [indentedLine inside (first :: rest)]) :
    Indented depth [indentedLine inside (first :: rest)] := by
  intro front line back split _
  obtain ⟨rfl, rfl, rfl⟩ : front = [] ∧ line = indentedLine inside (first :: rest) ∧ back = [] := by
    cases front with
    | nil => simpa [eq_comm] using split
    | cons other front => simp at split
  refine ⟨inside, first, rest, ?_, rfl, visible⟩
  simpa only [List.nil_append, braceLines, List.countP_nil, Nat.add_zero] using counted

/-- An empty line needs no indentation. -/
theorem indented_blank (depth : Nat) : Indented depth [[]] := by
  intro front line back split filled
  cases front with
  | nil => exact absurd (List.cons.inj split).1.symm filled
  | cons other front => simp at split

/-- Lines may follow one another where neither the last nor the next is empty. -/
theorem isChain_append_of_filled {first second : List (List Char)} (before : first.IsChain Follows)
    (behind : second.IsChain Follows) (last_filled : ∀ line ∈ first.getLast?, line ≠ [])
    (next_filled : ∀ line ∈ second.head?, line ≠ []) : (first ++ second).IsChain Follows := by
  refine List.isChain_append.mpr ⟨before, behind, fun last own next other => ?_⟩
  exact ⟨fun none => absurd none (next_filled next other),
    fun none => absurd none (last_filled last own)⟩

/-! ## Steps and their lines -/

/-- A text on one line is written as one line. -/
theorem linesAt_of_unbroken {text : String} {first : Char} {rest : List Char}
    (unbroken : Unbroken text) (content : withoutReturn text.toList = first :: rest)
    (depth : Nat) :
    linesAt depth text = String.ofList (unlines [indentedLine depth (first :: rest)]) := by
  rw [linesAt, List.splitOn_eq_singleton unbroken, List.flatMap_singleton, content]
  simp [lineAt, indentedLine]

/-- Steps, the lines that they make at a depth, and how these lines are laid out. -/
structure SetOut (depth : Nat) (steps : List Step) (lines : List (List Char)) : Prop where
  printed : ∀ text, Page.writeAll ⟨text, depth⟩ steps =
    .ok ⟨text ++ String.ofList (unlines lines), depth⟩
  filled : lines = [] → steps = []
  unbroken : ∀ line ∈ lines, '\n' ∉ line
  indented : Indented depth lines
  closed : braceLines '{' lines = braceLines '}' lines
  spaced : lines.IsChain Follows
  /-- Lines may stand behind an empty one. -/
  begins : ∀ line ∈ lines.head?, line ≠ [] ∧ ¬ IsBrace '}' line
  /-- Lines may stand in front of an empty one. -/
  ends : ∀ line ∈ lines.getLast?, line ≠ [] ∧ ¬ IsBrace '{' line

namespace SetOut

variable {depth : Nat} {steps first second : List Step}
  {lines before behind : List (List Char)}

/-- No steps are laid out as no lines, at every depth. -/
theorem empty (depth : Nat) : SetOut depth [] [] where
  printed text := by simp [Page.writeAll, unlines]
  filled _ := rfl
  unbroken := by simp
  indented := by simp [Indented]
  closed := rfl
  spaced := .nil
  begins := by simp
  ends := by simp

/-- A plain line makes one line, which is no brace. Its indentation ends where the text begins, as
that does not begin with a blank. -/
theorem line {text : String} (plain : PlainLine text) (depth : Nat) :
    ∃ start rest, start ∉ [' ', '{', '}', '\r', '\n'] ∧
      SetOut depth [.line text] [indentedLine depth (start :: rest)] := by
  obtain ⟨start, rest, chars, visible, free⟩ := id plain
  have start_line : ∃ shorter, withoutReturn (start :: rest) = start :: shorter ∧
      '\n' ∉ shorter := by
    by_cases returned : (start :: rest).getLast? = some '\r'
    · cases rest with
      | nil => simp_all
      | cons next rest =>
        refine ⟨(next :: rest).dropLast, by simp [withoutReturn, returned], fun member => ?_⟩
        exact free (List.dropLast_subset _ member)
    · exact ⟨rest, by simp [withoutReturn, returned], free⟩
  obtain ⟨shorter, content, short⟩ := start_line
  simp only [List.mem_cons, List.not_mem_nil, or_false, not_or] at visible
  obtain ⟨noBlank, noOpening, noClosing, noReturn, noFeed⟩ := visible
  have notBrace {brace : Char} (other : start ≠ brace) :
      ¬ IsBrace brace (indentedLine depth (start :: shorter)) := by
    rw [isBrace_indentedLine noBlank]
    exact fun same => other same.1
  refine ⟨start, shorter, by simp [noBlank, noOpening, noClosing, noReturn, noFeed], ?_⟩
  have nonempty : indentedLine depth (start :: shorter) ≠ [] := by simp [indentedLine]
  exact {
    printed := fun before => by
      have written := linesAt_of_unbroken plain.unbroken (chars ▸ content) depth
      rw [Page.writeAll, Page.write, written]
      rfl
    filled := by simp
    unbroken := by simp [indentedLine, List.mem_replicate, Ne.symm noFeed, short]
    indented := .single noBlank (by simp [braceLines, notBrace noClosing])
    closed := by simp [braceLines, notBrace noClosing, notBrace noOpening]
    spaced := .singleton _
    begins := by simp [nonempty, notBrace noClosing]
    ends := by simp [nonempty, notBrace noOpening] }

/-- Lines are laid out behind lines of the same depth, and the braces on both sides are counted
together. -/
theorem append (front : SetOut depth first before) (back : SetOut depth second behind) :
    SetOut depth (first ++ second) (before ++ behind) where
  printed text := by
    rw [Page.writeAll_append_of_ok (front.printed text), back.printed]
    simp [String.append_assoc]
  filled none := by
    obtain ⟨rfl, rfl⟩ := List.append_eq_nil_iff.mp none
    rw [front.filled rfl, back.filled rfl, List.append_nil]
  unbroken line member := by
    rcases List.mem_append.mp member with member | member
    · exact front.unbroken line member
    · exact back.unbroken line member
  indented := front.indented.append back.indented (by rw [front.closed])
  closed := by rw [braceLines_append, braceLines_append, front.closed, back.closed]
  spaced := isChain_append_of_filled front.spaced back.spaced
    (fun line last => (front.ends line last).1) (fun line next => (back.begins line next).1)
  begins line member := by
    rw [List.head?_append] at member
    cases before with
    | nil => exact back.begins line (by simpa using member)
    | cons own before => exact front.begins line (by simpa using member)
  ends line member := by
    rw [List.getLast?_append] at member
    cases last : behind.getLast? with
    | none => exact front.ends line (by simpa [last] using member)
    | some own => exact back.ends line (by simpa [last] using member)

/-- An empty line between lines, where neither side is empty, so that it stands next to no brace of
the body around. -/
theorem apart (front : SetOut depth first before) (back : SetOut depth second behind)
    (front_filled : before ≠ []) (back_filled : behind ≠ []) :
    SetOut depth (first ++ .blank :: second) (before ++ [] :: behind) where
  printed text := by
    rw [Page.writeAll_append_of_ok (front.printed text), Page.writeAll, Page.write]
    simp only [back.printed]
    simp [unlines, String.append_assoc]
  filled none := by simp at none
  unbroken line member := by
    simp only [List.mem_append, List.mem_cons] at member
    rcases member with member | rfl | member
    · exact front.unbroken line member
    · exact List.not_mem_nil
    · exact back.unbroken line member
  indented := by
    have blank := (indented_blank depth).append back.indented rfl
    exact front.indented.append blank (by rw [front.closed])
  closed := by
    have same := front.closed
    have behind_same := back.closed
    simp only [braceLines, List.countP_append, List.countP_cons, not_isBrace_nil, decide_false]
      at same behind_same ⊢
    omega
  spaced := by
    refine List.isChain_append.mpr ⟨front.spaced, List.isChain_cons.mpr ⟨?_, back.spaced⟩, ?_⟩
    · intro next own
      have opens := back.begins next own
      exact ⟨fun none => absurd none opens.1, fun _ => opens.2⟩
    · intro last own next none
      have closes := front.ends last own
      exact ⟨fun _ => closes, fun none => absurd none closes.1⟩
  begins line member := by
    refine front.begins line ?_
    rwa [List.head?_append_of_ne_nil _ front_filled] at member
  ends line member := by
    refine back.ends line ?_
    obtain ⟨own, rest, rfl⟩ := List.exists_cons_of_ne_nil back_filled
    simpa [List.getLast?_append, List.getLast?_cons] using member

/-- Lines between braces are laid out at the depth of the braces, and are themselves one deeper. -/
theorem braced (inner : SetOut (depth + 1) steps lines) :
    SetOut depth (.opening :: steps ++ [.closing])
      (indentedLine depth ['{'] :: lines ++ [indentedLine depth ['}']]) where
  printed text := by
    have opened : linesAt depth "\x7b" = String.ofList (unlines [indentedLine depth ['{']]) :=
      linesAt_of_unbroken (.of_chars (by decide)) rfl depth
    have closed : linesAt depth "\x7d" = String.ofList (unlines [indentedLine depth ['}']]) :=
      linesAt_of_unbroken (.of_chars (by decide)) rfl depth
    rw [List.cons_append, Page.writeAll, Page.write]
    simp only [Page.writeAll_append_of_ok (inner.printed _), Page.writeAll, Page.write, opened,
      closed]
    simp [String.append_assoc, unlines]
  filled none := by simp at none
  unbroken line member := by
    simp only [List.mem_append, List.mem_cons, List.not_mem_nil, or_false] at member
    rcases member with (rfl | member) | rfl
    · simp [indentedLine, List.mem_replicate]
    · exact inner.unbroken line member
    · simp [indentedLine, List.mem_replicate]
  indented := by
    have opening : Indented depth [indentedLine depth ['{']] :=
      .single (by decide) (by simp [braceLines_single])
    have closing : Indented (depth + 1) [indentedLine depth ['}']] :=
      .single (by decide) (by simp [braceLines_single])
    have body := opening.append inner.indented (by simp [braceLines_single])
    have same := inner.closed
    refine body.append closing ?_
    rw [braceLines_append, braceLines_append, braceLines_single (by decide),
      braceLines_single (by decide)]
    simp only [Char.reduceEq, and_true, if_true, if_false]
    omega
  closed := by
    have same := inner.closed
    rw [← List.singleton_append]
    simp only [braceLines_append]
    rw [braceLines_single (by decide), braceLines_single (by decide),
      braceLines_single (by decide), braceLines_single (by decide)]
    simp only [Char.reduceEq, and_true, if_true, if_false]
    omega
  spaced := by
    have filled (brace : Char) : indentedLine depth [brace] ≠ [] := by simp [indentedLine]
    have opened := isChain_append_of_filled (.singleton (indentedLine depth ['{'])) inner.spaced
      (by simp [filled]) (fun line next => (inner.begins line next).1)
    refine isChain_append_of_filled opened (.singleton _) (fun line last => ?_) (by simp [filled])
    rw [List.getLast?_cons] at last
    cases behind : lines.getLast? with
    | none =>
      obtain rfl : indentedLine depth ['{'] = line := by simpa [behind] using last
      exact filled '{'
    | some own => exact (inner.ends line (by simpa [behind] using last)).1
  begins line member := by
    obtain rfl : indentedLine depth ['{'] = line := by simpa using member
    exact ⟨by simp [indentedLine], by simp [isBrace_indentedLine]⟩
  ends line member := by
    obtain rfl : indentedLine depth ['}'] = line := by
      rwa [List.getLast?_concat, Option.mem_some_iff] at member
    exact ⟨by simp [indentedLine], by simp [isBrace_indentedLine]⟩

/-- Parts with an empty line between each two, where none of them is empty. The induction is on the
parts. -/
theorem interspersed {parts : List (List Step)}
    (each : ∀ part ∈ parts, part ≠ [] ∧ ∃ lines, SetOut depth part lines) :
    ∃ sections, List.Forall₂ (SetOut depth) parts sections ∧
      SetOut depth (parts.intersperse [.blank]).flatten ([[]].intercalate sections) := by
  induction parts with
  | nil => exact ⟨[], .nil, .empty depth⟩
  | cons part others inductionHypothesis =>
    obtain ⟨part_filled, own, laid⟩ := each part List.mem_cons_self
    obtain ⟨sections, separate, together⟩ :=
      inductionHypothesis fun other member => each other (List.mem_cons_of_mem _ member)
    refine ⟨own :: sections, .cons laid separate, ?_⟩
    cases separate with
    | nil => simpa [List.intercalate] using laid
    | @cons next lines nexts rest next_laid _ =>
      have next_filled := (each next (by simp)).1
      refine laid.apart together (mt laid.filled part_filled) (mt together.filled ?_)
      cases nexts with
      | nil => simpa using next_filled
      | cons other nexts => simp

end SetOut

/-- Steps that stand in the form in which code is laid out: plain lines, bodies between braces, and
an empty line only between two parts that are not empty. -/
inductive Neat : List Step → Prop where
  | empty : Neat []
  | line {text : String} (plain : PlainLine text) : Neat [.line text]
  | braced {steps : List Step} (inner : Neat steps) : Neat (.opening :: steps ++ [.closing])
  | append {first second : List Step} (before : Neat first) (behind : Neat second) :
      Neat (first ++ second)
  | apart {first second : List Step} (before : Neat first) (behind : Neat second)
      (before_filled : first ≠ []) (behind_filled : second ≠ []) :
      Neat (first ++ .blank :: second)

/-- Neat steps are laid out at every depth. The cases are the ways in which neat steps are put
together, and each is a lemma above. -/
theorem Neat.setOut {steps : List Step} (neat : Neat steps) (depth : Nat) :
    ∃ lines, SetOut depth steps lines := by
  induction neat generalizing depth with
  | empty => exact ⟨[], .empty depth⟩
  | line plain =>
    obtain ⟨start, rest, _, laid⟩ := SetOut.line plain depth
    exact ⟨_, laid⟩
  | braced _ inductionHypothesis =>
    obtain ⟨lines, laid⟩ := inductionHypothesis (depth + 1)
    exact ⟨_, laid.braced⟩
  | append _ _ before behind =>
    obtain ⟨front, front_laid⟩ := before depth
    obtain ⟨back, back_laid⟩ := behind depth
    exact ⟨_, front_laid.append back_laid⟩
  | apart _ _ before_filled behind_filled before behind =>
    obtain ⟨front, front_laid⟩ := before depth
    obtain ⟨back, back_laid⟩ := behind depth
    refine ⟨_, front_laid.apart back_laid (mt front_laid.filled before_filled) ?_⟩
    exact mt back_laid.filled behind_filled

end TypedClients.Layout
