import TypedClients.Proofs.FileTree
import TypedClients.Workspace

/-!
# Growing workspaces

A path leads from a workspace to a location that depends on the directory of the workspace alone.
So when the tree grows every path leads where it led before, and what a run looks for there is the
same, unless it is one of the files that were written.

The lemmas are those about growing trees, seen through the current directory. None of them asks
where this directory is, only that it stays the same.
-/

namespace TypedClients.Workspace

open FilePath

/-! ## Locations -/

/-- Where a path leads as it is seen from a workspace. -/
def location (workspace : Workspace) (path : String) : Location :=
  FilePath.location (workspace.absolute path)

/-- A name without slashes leads right below its directory. -/
theorem location_of_name {name : String} (free : '/' ∉ name.toList)
    (long : 2 < name.length) (workspace : Workspace) (directory : String) :
    workspace.location (join directory name) = workspace.location directory ++ [name] := by
  have filled : name ≠ "" := by
    rintro rfl
    exact absurd long (by decide)
  refine location_of_parts ?_ long
  rw [absolute, parts_join_join (not_isAbsolute free), parts_of_name free filled]
  rfl

/-- A name with any ending leads to a location with that ending. -/
theorem exists_location_ending {ending : String} (free : '/' ∉ ending.toList)
    (long : 2 < ending.length) (workspace : Workspace) (directory text : String) :
    ∃ front name, workspace.location (join directory (text ++ ending)) =
      front ++ [name ++ ending] := by
  have filled : ending ≠ "" := by
    rintro rfl
    exact absurd long (by decide)
  obtain ⟨own, name, last⟩ := exists_parts_ending free filled text
  obtain ⟨inner, within⟩ := exists_parts_join directory (text ++ ending)
  obtain ⟨outer, whole⟩ := exists_parts_join workspace.directory (join directory (text ++ ending))
  rw [within, last, ← List.append_assoc, ← List.append_assoc] at whole
  refine ⟨_, name, location_of_parts whole ?_⟩
  rw [String.length_append]
  omega

/-! ## Growing workspaces -/

/-- A workspace seen from the same directory, the tree of which has grown. -/
structure Grown (targets : Location → Prop) (before after : Workspace) : Prop where
  directory : after.directory = before.directory
  tree : FileTree.Grown targets before.tree after.tree

variable {targets : Location → Prop} {workspace before after last : Workspace}
  {path other text content : String}

/-- A workspace has grown by nothing. -/
theorem Grown.same : Grown targets workspace workspace :=
  ⟨rfl, .same⟩

/-- What has grown twice has grown. -/
theorem Grown.trans (first : Grown targets before after) (second : Grown targets after last) :
    Grown targets before last :=
  ⟨second.directory.trans first.directory, first.tree.trans second.tree⟩

/-- Paths lead from a grown workspace where they led before. -/
theorem Grown.absolute_eq (grown : Grown targets before after) (path : String) :
    after.absolute path = before.absolute path := by
  rw [absolute, absolute, grown.directory]

/-- A path leads to the same location in a grown workspace, as its current directory is the same. -/
theorem Grown.location_eq (grown : Grown targets before after) (path : String) :
    after.location path = before.location path := by
  rw [location, location, grown.absolute_eq]

/-- A file that is not written is read as before. -/
theorem Grown.read (grown : Grown targets before after) (given : before.read path = .ok text)
    (elsewhere : ¬ targets (before.location path)) : after.read path = .ok text := by
  rw [Workspace.read, grown.absolute_eq]
  exact grown.tree.read given elsewhere

/-- A write succeeds when the tree can be written at the absolute path. Nothing but the tree
changes. -/
theorem write_eq_ok (written : workspace.write path text = .ok after) :
    ∃ tree, workspace.tree.write (workspace.absolute path) text = .ok tree ∧
      after = { workspace with tree } := by
  obtain ⟨tree, written, same⟩ := map_eq_ok.mp written
  exact ⟨tree, written, same.symm⟩

/-- A write lets the workspace grow by the file at its location. -/
theorem grown_of_write (written : workspace.write path text = .ok after)
    (target : targets (workspace.location path)) : Grown targets workspace after := by
  obtain ⟨tree, below, rfl⟩ := write_eq_ok written
  exact ⟨rfl, FileTree.grown_of_write below target⟩

/-- A write leaves every path where it led. -/
theorem location_of_write (written : workspace.write path text = .ok after) (other : String) :
    after.location other = workspace.location other := by
  obtain ⟨tree, -, rfl⟩ := write_eq_ok written
  rfl

/-- What is written is read back. -/
theorem read_of_write (written : workspace.write path text = .ok after) :
    after.read path = .ok text := by
  obtain ⟨tree, below, rfl⟩ := write_eq_ok written
  exact FileTree.read_of_write below

/-- Another file is read as before, unless it is at the same location and had another text. -/
theorem read_of_write_other (written : workspace.write path text = .ok after)
    (given : workspace.read other = .ok content)
    (same : workspace.location other = workspace.location path → content = text) :
    after.read other = .ok content := by
  obtain ⟨tree, below, rfl⟩ := write_eq_ok written
  exact FileTree.read_of_write_other below given same

/-- Paths to one location read one text. -/
theorem eq_of_read {first second : String} (one : workspace.read path = .ok first)
    (another : workspace.read other = .ok second)
    (same : workspace.location path = workspace.location other) : first = second := by
  obtain ⟨-, -, here⟩ := FileTree.find_eq_ok.mp (FileTree.read_eq_ok.mp one)
  obtain ⟨-, -, there⟩ := FileTree.find_eq_ok.mp (FileTree.read_eq_ok.mp another)
  have place : FilePath.location (workspace.absolute path) =
      FilePath.location (workspace.absolute other) := same
  rw [place, there] at here
  cases here
  rfl

/-- The workspace grows by directories that are made. -/
theorem grown_of_makeDirectories (made : workspace.makeDirectories path = (after, none)) :
    Grown targets workspace after := by
  obtain ⟨rfl, -⟩ := Prod.mk.inj made
  exact ⟨rfl, (workspace.tree.makeDirectories_spec (workspace.absolute path)).1⟩

/-- Directories that were made need not be made again. -/
theorem makeDirectories_of_grown (made : workspace.makeDirectories path = (after, none))
    (grown : Grown targets after last) : last.makeDirectories path = (last, none) := by
  obtain ⟨rfl, done⟩ := Prod.mk.inj made
  have spec : FileTree.Grown targets workspace.tree _ ∧ _ :=
    workspace.tree.makeDirectories_spec (workspace.absolute path)
  obtain ⟨free, there⟩ := spec.2 done
  have same : last.absolute path = workspace.absolute path := grown.absolute_eq path
  rw [makeDirectories, same,
    FileTree.makeDirectories_of_there free (grown.tree.leadsToDirectory there)]

/-- A path is that of a directory when it is not empty and the absolute path is that of one. -/
theorem isDirectory_iff : workspace.isDirectory path = true ↔
    path ≠ "" ∧ workspace.tree.isDirectory (workspace.absolute path) = true := by
  simp [isDirectory]

/-- The path of a directory is that of a directory in a grown workspace. -/
theorem Grown.isDirectory (grown : Grown targets before after)
    (there : before.isDirectory path = true) : after.isDirectory path = true := by
  rw [isDirectory_iff] at there ⊢
  rw [grown.absolute_eq]
  exact ⟨there.1, grown.tree.isDirectory there.2⟩

/-- The path of a file is that of a file in a grown workspace. -/
theorem Grown.isFile (grown : Grown targets before after) (there : before.isFile path = true)
    (elsewhere : ¬ targets (before.location path)) : after.isFile path = true := by
  rw [Workspace.isFile, grown.absolute_eq]
  exact grown.tree.isFile there elsewhere

/-- A path to a file is no path to a directory. -/
theorem isDirectory_of_isFile (there : workspace.isFile path = true) :
    workspace.isDirectory path = false := by
  have other : workspace.tree.isDirectory (workspace.absolute path) = false :=
    FileTree.isDirectory_of_isFile there
  rw [isDirectory, other, Bool.and_false]

/-- The files of a wanted name below a directory are the same, when none of that name is
written. -/
theorem Grown.filesBelow {wanted : String → Bool} (grown : Grown targets before after)
    (there : before.isDirectory path = true)
    (unwanted : ∀ location, targets location → location.getLast?.any wanted = false) :
    after.filesBelow path wanted = before.filesBelow path wanted := by
  have found := FileTree.isDirectory_iff.mp (isDirectory_iff.mp there).2
  have now := FileTree.isDirectory_iff.mp (isDirectory_iff.mp (grown.isDirectory there)).2
  rw [grown.absolute_eq] at now
  rw [Workspace.filesBelow, Workspace.filesBelow, grown.absolute_eq, found, now]
  dsimp only
  rw [grown.tree.filesBelow _ unwanted]

end TypedClients.Workspace
