import TypedClients.Proofs.FileTree

/-!
# What operations leave alone

A write changes what is at one location, the one to which its path leads. Making directories, also
when it fails on the way, changes no location at which anything is: it puts directories at some of
the locations through which its path leads.

`MadeAt` says this with a set of places, which is made larger when operations are put together.
-/

namespace TypedClients.FileTree

open FilePath

/-- A tree differs from an earlier one at most by directories at some places where nothing was. -/
def MadeAt (places : Location → Prop) (before after : FileTree) : Prop :=
  ∀ location, after.node? location = before.node? location ∨
    before.node? location = none ∧ after.node? location = some .directory ∧ places location

namespace MadeAt

variable {places others : Location → Prop} {before middle after : FileTree}

/-- A tree does not differ from itself. -/
theorem refl (tree : FileTree) : MadeAt places tree tree := fun _ => Or.inl rfl

/-- Directories that are made one after the other are made where the first or the second ones were
to be. -/
theorem trans (first : MadeAt places before middle) (second : MadeAt places middle after) :
    MadeAt places before after := by
  intro location
  rcases second location with same | ⟨free, made, place⟩
  · rw [same]
    exact first location
  · rcases first location with before | ⟨-, already, -⟩
    · exact Or.inr ⟨before ▸ free, made, place⟩
    · rw [free] at already
      cases already

/-- What is made at some places is made at any that include them. -/
theorem mono (made : MadeAt places before after)
    (among : ∀ location, places location → others location) : MadeAt others before after :=
  fun location => (made location).imp_right fun ⟨free, now, place⟩ =>
    ⟨free, now, among location place⟩

end MadeAt

variable {tree after : FileTree} {path text : String} {parts : List String}

/-- What is at each location after a write. -/
theorem node?_write (written : tree.write path text = .ok after) (location : Location) :
    after.node? location =
      if location = FilePath.location path then some (.file (some text))
      else tree.node? location := by
  obtain ⟨-, -, -, noDirectory, rfl⟩ := write_eq_ok written
  split_ifs with own
  · rw [own, node?_put_self (ne_root noDirectory)]
  · exact node?_put_of_ne own tree _

/-- At most the directory at the end of the way is made, and nothing else is touched. -/
theorem madeAt_of_ensureDirectory (ensured : tree.ensureDirectory parts = .ok after) :
    MadeAt (fun location => walk [] parts = location) tree after := by
  rcases ensureDirectory_cases ensured with ⟨-, rfl⟩ | ⟨place, followed, free, rfl⟩
  · exact .refl after
  · have noDirectory : tree.node? place ≠ some .directory := by simp [free]
    intro location
    by_cases own : location = place
    · subst own
      exact Or.inr ⟨free, node?_put_self (ne_root noDirectory) tree _,
        (eq_walk_of_follow followed).symm⟩
    · exact Or.inl (node?_put_of_ne own tree _)

/-- Only directories above the innermost one are made, and that one. The induction is on the parts
of the path, with the outer directories made first. -/
theorem madeAt_of_ensureBelow (above : List String) (tree : FileTree) (parts : List String) :
    MadeAt (fun location => walk [] parts = location ∨
        ∃ front, front <+: above.reverse ∧ walk [] front = location)
      tree (tree.ensureBelow parts above).1 := by
  induction above generalizing tree parts with
  | nil =>
    rw [ensureBelow]
    cases ensured : tree.ensureDirectory parts with
    | ok after => exact (madeAt_of_ensureDirectory ensured).mono fun _ => Or.inl
    | error fault => exact .refl tree
  | cons name above inductionHypothesis =>
    rw [ensureBelow]
    cases ensured : tree.ensureDirectory parts with
    | ok after => exact (madeAt_of_ensureDirectory ensured).mono fun _ => Or.inl
    | error fault =>
      cases fault
      case notFound =>
        have outer : MadeAt (fun location => walk [] parts = location ∨
            ∃ front, front <+: (name :: above).reverse ∧ walk [] front = location)
            tree (tree.ensureBelow (name :: above).reverse above).1 := by
          refine (inductionHypothesis tree (name :: above).reverse).mono ?_
          rintro location (own | ⟨front, before, leads⟩)
          · exact Or.inr ⟨_, List.prefix_rfl, own⟩
          · refine Or.inr ⟨front, before.trans ?_, leads⟩
            rw [List.reverse_cons]
            exact List.prefix_append _ _
        dsimp only
        generalize tree.ensureBelow (name :: above).reverse above = made at outer
        obtain ⟨middle, fault⟩ := made
        cases fault with
        | some fault => exact outer
        | none =>
          dsimp only at outer ⊢
          cases again : middle.ensureDirectory parts with
          | ok after => exact outer.trans ((madeAt_of_ensureDirectory again).mono fun _ => Or.inl)
          | error fault => exact outer
      all_goals exact .refl tree

/-- Only directories on the way of a path are made for it, whether the last one of them could be
made or not. -/
theorem madeAt_of_makeDirectories (tree : FileTree) (path : String) :
    MadeAt (OnWay path) tree (tree.makeDirectories path).1 := by
  unfold makeDirectories
  cases checked : checkedParts path with
  | error fault => exact .refl tree
  | ok parts =>
    obtain ⟨-, rfl⟩ := checkedParts_eq_ok.mp checked
    refine (madeAt_of_ensureBelow (movingParts path).dropLast.reverse tree _).mono ?_
    rintro location (own | ⟨front, before, leads⟩)
    · exact ⟨_, List.prefix_rfl, (walk_movingParts path).trans own⟩
    · rw [List.reverse_reverse] at before
      exact ⟨front, before.trans (List.dropLast_prefix _), leads⟩

end TypedClients.FileTree
