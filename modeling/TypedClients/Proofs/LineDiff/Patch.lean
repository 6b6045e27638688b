import TypedClients.LineDiff.Hunk
import TypedClients.Proofs.LineDiff

/-!
# Hunks as a patch

A patch is a list of hunks, each with the ranges that its heading gives. It is applied from the
first hunk to the last: what stands before the place of a hunk stays, and there the lines that the
hunk keeps or drops have to be found. The hunks of a script, taken as a patch, make the new list of
the old one, and reversed the old list of the new one.

`Covers` is the relation between a script and its hunks: the hunks in order with kept items in
between. Applying the patch follows the cover, and reversing a cover is a cover of the reversed
script.
-/

namespace TypedClients.LineDiff

variable {α : Type}

/-! ## Patches -/

/-- A range of lines as a heading gives it: the number of a line, and a count. -/
structure LineRange where
  number : Nat
  count : Nat
deriving DecidableEq, Repr

namespace LineRange

/-- The number of lines before a range. An empty range is given by the line before it, any other
one by its first line. -/
def before (range : LineRange) : Nat :=
  if range.count = 0 then range.number else range.number - 1

/-- The range of a count of lines behind some others. -/
def behind (before count : Nat) : LineRange :=
  ⟨if count = 0 then before else before + 1, count⟩

/-- A range behind some items has just these before it. An empty range is named by the last item
before it and any other by its own first item, so both cases are to be looked at. -/
@[simp] theorem before_behind (before count : Nat) : (behind before count).before = before := by
  unfold LineRange.before behind
  split <;> simp_all

/-- A range has the length that it was made with. -/
@[simp] theorem count_behind (before count : Nat) : (behind before count).count = count := rfl

end LineRange

/-- A step from the new list back to the old one. -/
def Edit.reversed : Edit α → Edit α
  | .keep item => .keep item
  | .delete item => .insert item
  | .insert item => .delete item

/-- A hunk of a patch: the ranges of its heading, and its lines. -/
structure PatchHunk (α : Type) where
  old : LineRange
  new : LineRange
  edits : List (Edit α)

namespace PatchHunk

/-- The lines that a hunk has to find. -/
def uses (hunk : PatchHunk α) : List α :=
  hunk.edits.flatMap Edit.oldItems

/-- The lines that a hunk puts in their place. -/
def gives (hunk : PatchHunk α) : List α :=
  hunk.edits.flatMap Edit.newItems

/-- The hunk that undoes a hunk. -/
def reversed (hunk : PatchHunk α) : PatchHunk α :=
  ⟨hunk.new, hunk.old, hunk.edits.map Edit.reversed⟩

/-- A hunk ends, in both lists, before another one begins. -/
def Precedes (first second : PatchHunk α) : Prop :=
  first.old.before + first.old.count < second.old.before ∧
    first.new.before + first.new.count < second.new.before

end PatchHunk

/-- What hunks make of the items behind a number of others. -/
def applyHunks [DecidableEq α] (place : Nat) : List (PatchHunk α) → List α → Option (List α)
  | [], items => some items
  | hunk :: others, items =>
    let gap := hunk.old.before - place
    if place ≤ hunk.old.before ∧ gap ≤ items.length ∧ hunk.uses <+: items.drop gap then
      (applyHunks (hunk.old.before + hunk.uses.length) others
        (items.drop (gap + hunk.uses.length))).map (items.take gap ++ hunk.gives ++ ·)
    else none

/-! ## Hunks that cover a script -/

/-- Hunks cover a script, behind a number of old and of new items: between them and at the ends
items are only kept, and there is an item between any two of them. -/
inductive Covers : Nat → Nat → List (Edit α) → List (Hunk α) → Prop where
  | kept {oldBefore newBefore : Nat} (items : List α) :
      Covers oldBefore newBefore (items.map .keep) []
  | hunk {oldBefore newBefore : Nat} (items : List α) (hunk : Hunk α) {edits : List (Edit α)}
      {others : List (Hunk α)} (old : hunk.oldBefore = oldBefore + items.length)
      (new : hunk.newBefore = newBefore + items.length)
      (apart : ∀ next ∈ others.head?, hunk.oldBefore + hunk.oldItems.length < next.oldBefore ∧
        hunk.newBefore + hunk.newItems.length < next.newBefore)
      (behind : Covers (hunk.oldBefore + hunk.oldItems.length)
        (hunk.newBefore + hunk.newItems.length) edits others) :
      Covers oldBefore newBefore (items.map .keep ++ (hunk.edits ++ edits)) (hunk :: others)

/-- A hunk with the ranges that its heading gives. -/
def Hunk.headed (hunk : Hunk α) : PatchHunk α :=
  ⟨.behind hunk.oldBefore hunk.oldItems.length, .behind hunk.newBefore hunk.newItems.length,
    hunk.edits⟩

/-- A hunk seen from the new list. -/
def Hunk.reversed (hunk : Hunk α) : Hunk α :=
  ⟨hunk.newBefore, hunk.oldBefore, hunk.edits.map Edit.reversed⟩

/-- What was new in an edit is old when it is reversed. -/
@[simp] theorem Edit.oldItems_reversed (edit : Edit α) :
    edit.reversed.oldItems = edit.newItems := by
  cases edit <;> rfl

/-- What was old in an edit is new when it is reversed. -/
@[simp] theorem Edit.newItems_reversed (edit : Edit α) :
    edit.reversed.newItems = edit.oldItems := by
  cases edit <;> rfl

/-- The place of a hunk in the new list is its place in the old one when it is reversed. -/
@[simp] theorem Hunk.oldBefore_reversed (hunk : Hunk α) :
    hunk.reversed.oldBefore = hunk.newBefore := rfl

/-- The place of a hunk in the old list is its place in the new one when it is reversed. -/
@[simp] theorem Hunk.newBefore_reversed (hunk : Hunk α) :
    hunk.reversed.newBefore = hunk.oldBefore := rfl

/-- The new items of a hunk are the old ones when it is reversed. -/
@[simp] theorem Hunk.oldItems_reversed (hunk : Hunk α) :
    hunk.reversed.oldItems = hunk.newItems := by
  simp [Hunk.oldItems, Hunk.newItems, Hunk.reversed, List.flatMap_map]

/-- The old items of a hunk are the new ones when it is reversed. -/
@[simp] theorem Hunk.newItems_reversed (hunk : Hunk α) :
    hunk.reversed.newItems = hunk.oldItems := by
  simp [Hunk.oldItems, Hunk.newItems, Hunk.reversed, List.flatMap_map]

/-- Reversing a hunk exchanges the two ranges of its heading. -/
theorem Hunk.headed_reversed (hunk : Hunk α) : hunk.reversed.headed = hunk.headed.reversed := by
  simp only [Hunk.headed, oldItems_reversed, newItems_reversed]
  rfl

/-- Items that are all kept were there before. -/
theorem oldItems_kept (items : List α) :
    (items.map Edit.keep).flatMap Edit.oldItems = items := by
  simp [List.flatMap_map, Edit.oldItems]

/-- Items that are all kept are there afterwards. -/
theorem newItems_kept (items : List α) :
    (items.map Edit.keep).flatMap Edit.newItems = items := by
  simp [List.flatMap_map, Edit.newItems]

namespace Covers

variable {oldBefore newBefore : Nat} {edits : List (Edit α)} {hunks : List (Hunk α)}

/-- What covers a script covers it reversed. -/
theorem reversed (covers : Covers oldBefore newBefore edits hunks) :
    Covers newBefore oldBefore (edits.map Edit.reversed) (hunks.map Hunk.reversed) := by
  have gap (items : List α) : (items.map Edit.keep).map Edit.reversed = items.map Edit.keep := by
    simp [Edit.reversed]
  induction covers with
  | kept items =>
    rw [gap]
    exact .kept items
  | @hunk _ _ items hunk edits others old new apart _ inductionHypothesis =>
    have lines : hunk.edits.map Edit.reversed = hunk.reversed.edits := rfl
    rw [List.map_append, List.map_append, gap, lines, List.map_cons]
    refine .hunk items _ new old ?_ (by simpa using inductionHypothesis)
    intro next first
    obtain ⟨other, member, rfl⟩ := Option.map_eq_some_iff.mp (List.head?_map ▸ first)
    simpa [and_comm] using apart other member

/-- One more item that is kept in front. -/
theorem keep (item : α) (covers : Covers (oldBefore + 1) (newBefore + 1) edits hunks) :
    Covers oldBefore newBefore (.keep item :: edits) hunks := by
  cases covers with
  | kept items => exact .kept (item :: items)
  | hunk items hunk old new apart behind =>
    refine .hunk (item :: items) hunk ?_ ?_ apart behind <;> simp only [List.length_cons] <;> omega

/-- Hunks that cover a script make its new items of its old ones. The induction is on the cover,
with what was kept before a hunk going through as it is. -/
theorem applyHunks_eq [DecidableEq α] (covers : Covers oldBefore newBefore edits hunks) :
    applyHunks oldBefore (hunks.map Hunk.headed) (edits.flatMap Edit.oldItems) =
      some (edits.flatMap Edit.newItems) := by
  induction covers with
  | kept items => simp [applyHunks, oldItems_kept, newItems_kept]
  | @hunk oldBefore newBefore items hunk edits others old new apart _ inductionHypothesis =>
    have place : hunk.headed.old.before = oldBefore + items.length := by simp [Hunk.headed, old]
    have uses : hunk.headed.uses = hunk.oldItems := rfl
    have gives : hunk.headed.gives = hunk.edits.flatMap Edit.newItems := rfl
    have split : (items.map Edit.keep ++ (hunk.edits ++ edits)).flatMap Edit.oldItems =
        items ++ (hunk.oldItems ++ edits.flatMap Edit.oldItems) := by
      simp only [List.flatMap_append, oldItems_kept]
      rfl
    have after : (items ++ (hunk.oldItems ++ edits.flatMap Edit.oldItems)).drop
        (items.length + hunk.oldItems.length) = edits.flatMap Edit.oldItems := by
      rw [← List.drop_drop, List.drop_left, List.drop_left]
    rw [old] at inductionHypothesis
    simp [applyHunks, place, uses, gives, split, after, newItems_kept, inductionHypothesis]

/-- Each of the hunks ends before the next one begins, on the old side as well as on the new one. -/
theorem pairwise (covers : Covers oldBefore newBefore edits hunks) :
    (hunks.map Hunk.headed).Pairwise PatchHunk.Precedes := by
  have trans : ∀ first second third : PatchHunk α,
      first.Precedes second → second.Precedes third → first.Precedes third := by
    unfold PatchHunk.Precedes
    omega
  have : IsTrans (PatchHunk α) PatchHunk.Precedes := ⟨trans⟩
  rw [← List.isChain_iff_pairwise]
  induction covers with
  | kept _ => exact .nil
  | @hunk _ _ items hunk edits others old new apart _ inductionHypothesis =>
    cases others with
    | nil => exact .singleton _
    | cons next others =>
      have precedes : hunk.headed.Precedes next.headed := by
        simpa [PatchHunk.Precedes, Hunk.headed] using apart next rfl
      exact .cons_cons precedes inductionHypothesis

/-- The steps of the hunks are steps of the script. -/
theorem mem (covers : Covers oldBefore newBefore edits hunks) {hunk : Hunk α} (one : hunk ∈ hunks)
    {edit : Edit α} (member : edit ∈ hunk.edits) : edit ∈ edits := by
  induction covers with
  | kept _ => cases one
  | hunk items hunk old new apart _ inductionHypothesis =>
    rcases List.mem_cons.mp one with rfl | behind
    · exact List.mem_append_right _ (List.mem_append_left _ member)
    · exact List.mem_append_right _ (List.mem_append_right _ (inductionHypothesis behind))

end Covers

/-! ## The hunks of a script -/

/-- A step that is not shown is no change, as each change is within its own context. -/
theorem exists_keep_of_hidden {edits : List (Edit α)} {edit : Edit α}
    (hidden : (edit, false) ∈ marked edits) : ∃ item, edit = .keep item := by
  obtain ⟨⟨same, index⟩, listed, pair⟩ := List.mem_map.mp hidden
  obtain ⟨rfl, unshown⟩ := Prod.mk.inj pair
  have found : edits[index]? = some same := List.mem_zipIdx_iff_getElem?.mp listed
  have near : ((edits.drop (index - contextSize)).take
      (min index contextSize + 1 + contextSize))[min index contextSize]? = some same := by
    rw [List.getElem?_take_of_lt (by omega), List.getElem?_drop, ← found]
    congr 1
    omega
  have unchanged : same.isChange = false := by
    simpa using List.any_eq_false.mp unshown same (List.mem_of_getElem? near)
  cases same with
  | keep item => exact ⟨item, rfl⟩
  | delete item | insert item => cases unchanged

/-- One more item of a hunk in front of it, so that a hunk is put together from its last step to its
first. -/
theorem Covers.extend {oldBefore newBefore : Nat} {edits : List (Edit α)} {hunk : Hunk α}
    {others : List (Hunk α)} (edit : Edit α)
    (covers : Covers (oldBefore + edit.oldItems.length) (newBefore + edit.newItems.length) edits
      (hunk :: others))
    (adjacent : hunk.oldBefore = oldBefore + edit.oldItems.length) :
    Covers oldBefore newBefore (edit :: edits)
      (⟨oldBefore, newBefore, edit :: hunk.edits⟩ :: others) := by
  cases covers with
  | hunk items hunk old new apart behind =>
    obtain rfl : items = [] := List.length_eq_zero_iff.mp (by omega)
    have oldEnd : oldBefore + (Hunk.mk oldBefore newBefore (edit :: hunk.edits)).oldItems.length =
        hunk.oldBefore + hunk.oldItems.length := by
      simp [Hunk.oldItems, old, Nat.add_assoc]
    have newEnd : newBefore + (Hunk.mk oldBefore newBefore (edit :: hunk.edits)).newItems.length =
        hunk.newBefore + hunk.newItems.length := by
      simp [Hunk.newItems, new, Nat.add_assoc]
    rw [← oldEnd, ← newEnd] at apart behind
    exact .hunk [] ⟨oldBefore, newBefore, edit :: hunk.edits⟩ rfl rfl apart behind

/-- A hunk of one item in front of others, if there is an item between them. -/
theorem Covers.precede {oldBefore newBefore : Nat} {edits : List (Edit α)}
    {others : List (Hunk α)} (edit : Edit α)
    (covers : Covers (oldBefore + edit.oldItems.length) (newBefore + edit.newItems.length) edits
      others)
    (apart : ∀ next ∈ others.head?, oldBefore + edit.oldItems.length < next.oldBefore ∧
      newBefore + edit.newItems.length < next.newBefore) :
    Covers oldBefore newBefore (edit :: edits) (⟨oldBefore, newBefore, [edit]⟩ :: others) := by
  have oldItems : (Hunk.mk oldBefore newBefore [edit]).oldItems = edit.oldItems := by
    simp [Hunk.oldItems]
  have newItems : (Hunk.mk oldBefore newBefore [edit]).newItems = edit.newItems := by
    simp [Hunk.newItems]
  rw [← oldItems, ← newItems] at apart covers
  exact .hunk [] ⟨oldBefore, newBefore, [edit]⟩ rfl rfl apart covers

/-- Where the first of some hunks begins: with the steps behind the given numbers of items when the
first of them is shown, and later when it is not. -/
def BeginsAt (oldBefore newBefore : Nat) (steps : List (Edit α × Bool)) (hunk : Hunk α) : Prop :=
  if steps.head?.map Prod.snd = some true then
    hunk.oldBefore = oldBefore ∧ hunk.newBefore = newBefore
  else oldBefore < hunk.oldBefore ∧ newBefore < hunk.newBefore

/-- Marked steps of which the hidden ones are kept are covered by their hunks. The induction is on
the steps, and a shown step begins a hunk or goes in front of the one behind it. -/
theorem covers_hunksFrom {steps : List (Edit α × Bool)}
    (kept : ∀ edit, (edit, false) ∈ steps → ∃ item, edit = .keep item)
    (oldBefore newBefore : Nat) :
    Covers oldBefore newBefore (steps.map Prod.fst) (hunksFrom oldBefore newBefore steps) ∧
      ∀ first ∈ (hunksFrom oldBefore newBefore steps).head?,
        BeginsAt oldBefore newBefore steps first := by
  induction steps generalizing oldBefore newBefore with
  | nil => exact ⟨.kept [], by simp [hunksFrom]⟩
  | cons step steps inductionHypothesis =>
    obtain ⟨edit, shown⟩ := step
    obtain ⟨covers, first⟩ := inductionHypothesis
      (fun other member => kept other (List.mem_cons_of_mem _ member))
      (oldBefore + edit.oldItems.length) (newBefore + edit.newItems.length)
    cases shown with
    | false =>
      obtain ⟨item, rfl⟩ := kept edit List.mem_cons_self
      refine ⟨covers.keep item, fun next member => ?_⟩
      have later := first next member
      unfold BeginsAt at later ⊢
      simp only [Edit.oldItems, Edit.newItems, List.length_singleton] at later
      rw [if_neg (by simp)]
      split at later <;> omega
    | true =>
      unfold hunksFrom
      rw [if_pos rfl]
      split
      · rename_i hunk others next same
        have begins := first hunk (by rw [same]; rfl)
        rw [BeginsAt, if_pos next] at begins
        refine ⟨(same ▸ covers).extend edit begins.1, fun found member => ?_⟩
        obtain rfl := Option.some_inj.mp member
        simp [BeginsAt]
      · rename_i fresh
        refine ⟨covers.precede edit fun next member => ?_, fun found member => ?_⟩
        · have begins := first next member
          obtain ⟨others, same⟩ := List.head?_eq_some_iff.mp member
          rwa [BeginsAt, if_neg fun shown => fresh next others shown same] at begins
        · obtain rfl := Option.some_inj.mp member
          simp [BeginsAt]

/-- The hunks of a script cover it. -/
theorem covers_hunks (edits : List (Edit α)) : Covers 0 0 edits (hunks edits) := by
  have steps : (marked edits).map Prod.fst = edits := by
    simp [marked, Function.comp_def]
  have kept (edit : Edit α) (hidden : (edit, false) ∈ marked edits) : ∃ item, edit = .keep item :=
    exists_keep_of_hidden hidden
  have covered := (covers_hunksFrom kept 0 0).1
  rwa [steps] at covered

end TypedClients.LineDiff
