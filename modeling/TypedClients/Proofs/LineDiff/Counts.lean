import Mathlib.Data.List.Basic
import TypedClients.Proofs.LineDiff.Patch

/-!
# Counting changes

A script brings in and drops as many items as the lengths of its two lists require, and hunks leave
out none of its changes. A script without changes goes from a list to the same list. From a list to
the same list a valid script may still make a detour, but the one that is computed keeps every item.

That hunks leave nothing out is proved by the cover of the script by its hunks, as what is not
covered is kept.
-/

namespace TypedClients.LineDiff

variable {α : Type} {edits : List (Edit α)} {old new : List α}

/-! ## Any script -/

/-- The items that are brought in make up for those that are dropped: both sides count the items
that are kept, and the changes of the other side. -/
theorem counts_balance (edits : List (Edit α)) :
    insertedCount edits + (edits.flatMap Edit.oldItems).length =
      deletedCount edits + (edits.flatMap Edit.newItems).length := by
  unfold insertedCount deletedCount
  induction edits with
  | nil => rfl
  | cons edit edits inductionHypothesis =>
    rw [List.countP_cons, List.countP_cons]
    cases edit <;>
      simp only [List.flatMap_cons, List.length_append, Edit.oldItems, Edit.newItems,
        Edit.isInsertion, Edit.isDeletion, List.length_nil, List.length_singleton, if_true,
        Bool.false_eq_true, if_false] <;>
      omega

/-- A script inserts as many items more than it deletes as the new list is longer than the old one.
-/
theorem IsScript.counts_balance (script : IsScript edits old new) :
    insertedCount edits + old.length = deletedCount edits + new.length := by
  rw [← script.uses, ← script.gives]
  exact LineDiff.counts_balance edits

/-- Only old items are dropped, so there are no more of them than the old list has. -/
theorem IsScript.deletedCount_le (script : IsScript edits old new) :
    deletedCount edits ≤ old.length := by
  rw [← script.uses, deletedCount]
  clear script
  induction edits with
  | nil => exact Nat.zero_le _
  | cons edit edits inductionHypothesis =>
    rw [List.countP_cons, List.flatMap_cons, List.length_append]
    cases edit <;>
      simp only [Edit.isDeletion, Edit.oldItems, List.length_nil, List.length_singleton, if_true,
        Bool.false_eq_true, if_false] <;>
      omega

/-- A script without changes goes from a list to the same list, as it keeps every item of both. -/
theorem IsScript.eq_of_unchanged (script : IsScript edits old new)
    (noneInserted : insertedCount edits = 0) (noneDeleted : deletedCount edits = 0) :
    old = new := by
  have kept : ∀ edit ∈ edits, edit.oldItems = edit.newItems := by
    intro edit member
    have notInserted := List.countP_eq_zero.mp noneInserted edit member
    have notDeleted := List.countP_eq_zero.mp noneDeleted edit member
    cases edit with
    | keep item => rfl
    | delete item => exact absurd rfl notDeleted
    | insert item => exact absurd rfl notInserted
  rw [← script.uses, ← script.gives]
  exact List.flatMap_congr kept

/-! ## Its hunks -/

/-- No change is left out of hunks that cover a script, so the changes of a kind can be counted in
the hunks as well as in the script. What the hunks leave out is kept. -/
theorem Covers.countP {oldBefore newBefore : Nat} {hunks : List (Hunk α)}
    (covers : Covers oldBefore newBefore edits hunks) {isWanted : Edit α → Bool}
    (changesOnly : ∀ item, isWanted (.keep item) = false) :
    (hunks.flatMap Hunk.edits).countP isWanted = edits.countP isWanted := by
  have none (items : List α) : (items.map Edit.keep).countP isWanted = 0 := by
    simp [List.countP_map, Function.comp_def, changesOnly]
  induction covers with
  | kept items => exact (none items).symm
  | hunk items hunk _ _ _ _ inductionHypothesis =>
    rw [List.flatMap_cons, List.countP_append, List.countP_append, List.countP_append,
      none items, inductionHypothesis, Nat.zero_add]

/-- The hunks of a script insert as much as the script does, since what is between them is kept. -/
theorem insertedCount_hunks (edits : List (Edit α)) :
    insertedCount ((hunks edits).flatMap Hunk.edits) = insertedCount edits :=
  (covers_hunks edits).countP fun _ => rfl

/-- The hunks of a script delete as much as the script does. -/
theorem deletedCount_hunks (edits : List (Edit α)) :
    deletedCount ((hunks edits).flatMap Hunk.edits) = deletedCount edits :=
  (covers_hunks edits).countP fun _ => rfl

/-- Between different lists there is a hunk. -/
theorem IsScript.hunks_ne_nil (script : IsScript edits old new) (differ : old ≠ new) :
    hunks edits ≠ [] := by
  intro none
  have inserted := insertedCount_hunks edits
  have deleted := deletedCount_hunks edits
  rw [none] at inserted deleted
  exact differ (script.eq_of_unchanged inserted.symm deleted.symm)

/-! ## The script that is computed -/

section Computed

variable [DecidableEq α]

/-- Behind its first cell, a row is the row for the rest of the new list. -/
theorem tail_nextRow (item other : α) (new : List α) (below : List (Cell α)) :
    (nextRow item (other :: new) below).tail = nextRow item new below.tail := rfl

/-- Behind its first script a row is the row of the ending behind the first item. -/
theorem tail_rowOf (other : α) (new old : List α) :
    (rowOf (other :: new) old).tail = rowOf new old := by
  induction old with
  | nil => rfl
  | cons item old inductionHypothesis =>
    rw [rowOf, tail_nextRow, inductionHypothesis, rowOf]

/-- A first item that two lists have in common is kept. -/
theorem script_cons_self (item : α) (old new : List α) :
    script (item :: old) (item :: new) = .keep item :: script old new := by
  rw [script, rowOf, nextRow, tail_rowOf]
  simp [Cell.keep, script]

/-- Nothing changes between a list and itself. -/
theorem script_self (items : List α) : script items items = items.map .keep := by
  induction items with
  | nil => rfl
  | cons item items inductionHypothesis =>
    rw [script_cons_self, inductionHypothesis, List.map_cons]

/-- Between a list and itself nothing is inserted and nothing is deleted. -/
theorem counts_script_self (items : List α) :
    insertedCount (script items items) = 0 ∧ deletedCount (script items items) = 0 := by
  rw [script_self]
  simp [insertedCount, deletedCount, List.countP_map, Function.comp_def, Edit.isInsertion,
    Edit.isDeletion]

end Computed

end TypedClients.LineDiff
