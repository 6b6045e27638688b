import TypedClients.FileTree
import TypedClients.Proofs.FilePath
import TypedClients.Proofs.ProjectConfig

/-!
# Growing trees

Generation changes a tree in two ways only: it makes directories where nothing was, and it puts
files at the locations that it writes to. A tree that grows in this way keeps its directories and
the files at all other locations. So what a path leads to stays where it was, and is still the same
unless it is one of the files that were written.

`Grown` is an induction principle: its cases are a directory that was made and a file that was
written, with the conditions under which either happens. What holds of the tree before and is kept
by both cases holds of the tree afterwards.
-/

namespace TypedClients.FileTree

open FilePath

/-- A tree has grown by directories where nothing was, and by files at some locations, none of which
was a directory. -/
inductive Grown (targets : Location → Prop) (before : FileTree) : FileTree → Prop where
  | same : Grown targets before before
  | directory {tree : FileTree} {location : Location} (grown : Grown targets before tree)
      (free : tree.node? location = none) : Grown targets before (tree.put location .directory)
  | file {tree : FileTree} {location : Location} {text : String}
      (grown : Grown targets before tree) (target : targets location)
      (noDirectory : tree.node? location ≠ some .directory) :
      Grown targets before (tree.put location (.file (some text)))

/-- At the root there is a directory, in every tree. -/
@[simp] theorem node?_root (tree : FileTree) : tree.node? [] = some .directory := by
  simp [node?]

/-- Where no directory is, is not the root. -/
theorem ne_root {tree : FileTree} {location : Location}
    (noDirectory : tree.node? location ≠ some .directory) : location ≠ [] := by
  rintro rfl
  exact noDirectory tree.node?_root

/-- What is somewhere stays there when something is put where nothing was. -/
theorem node?_put_of_free {tree : FileTree} {made location : Location} {node other : Node}
    (free : tree.node? made = none) (there : tree.node? location = some node) :
    (tree.put made other).node? location = some node := by
  have elsewhere : location ≠ made := by
    rintro rfl
    simp [free] at there
  rw [node?_put_of_ne elsewhere, there]

namespace Grown

variable {targets : Location → Prop} {before after : FileTree} {location : Location}
  {text : Option String}

/-- What has grown twice has grown. -/
theorem trans {last : FileTree} (first : Grown targets before after)
    (second : Grown targets after last) : Grown targets before last := by
  induction second with
  | same => exact first
  | directory _ free inductionHypothesis => exact .directory inductionHypothesis free
  | file _ target noDirectory inductionHypothesis =>
    exact .file inductionHypothesis target noDirectory

/-- Directories stay: nothing is made where something was, and no file is written over a directory.
-/
theorem keeps_directory (grown : Grown targets before after)
    (there : before.node? location = some .directory) :
    after.node? location = some .directory := by
  induction grown with
  | same => exact there
  | directory _ free inductionHypothesis => exact node?_put_of_free free inductionHypothesis
  | @file tree written _ _ _ noDirectory inductionHypothesis =>
    have other : location ≠ written := by
      rintro rfl
      exact noDirectory inductionHypothesis
    rw [node?_put_of_ne other, inductionHypothesis]

/-- Files that are not written stay as they are, as no directory is made in the place of one. -/
theorem keeps_file (grown : Grown targets before after)
    (there : before.node? location = some (.file text)) (elsewhere : ¬ targets location) :
    after.node? location = some (.file text) := by
  induction grown with
  | same => exact there
  | directory _ free inductionHypothesis => exact node?_put_of_free free inductionHypothesis
  | @file tree written _ _ target _ inductionHypothesis =>
    have other : location ≠ written := by
      rintro rfl
      exact elsewhere target
    rw [node?_put_of_ne other, inductionHypothesis]

end Grown

/-! ## Following paths -/

section Follow

variable {tree : FileTree} {start location : Location} {parts : List String} {path : String}
  {node : Node}

/-- Parts that can be followed lead where they always lead. What is in the tree decides only whether
they can be followed. -/
theorem eq_walk_of_follow (found : tree.follow start parts = .ok location) :
    location = walk start parts := by
  induction parts generalizing start with
  | nil => exact (Except.ok.inj found).symm
  | cons part parts inductionHypothesis =>
    rw [follow] at found
    cases here : tree.node? start with
    | none => simp [here] at found
    | some node =>
      cases node with
      | file text => simp [here] at found
      | directory =>
        simp only [here] at found
        rw [walk]
        split_ifs at found ⊢ <;> exact inductionHypothesis found

/-- Parts can be followed one after the other, as following goes on from the location that it has
come to. -/
theorem follow_append (tree : FileTree) (start : Location) (first second : List String) :
    tree.follow start (first ++ second) =
      (tree.follow start first).bind fun location => tree.follow location second := by
  induction first generalizing start with
  | nil => rfl
  | cons part first inductionHypothesis =>
    rw [List.cons_append, follow, follow]
    cases tree.node? start with
    | none => rfl
    | some node =>
      cases node with
      | file text => rfl
      | directory =>
        dsimp only
        split_ifs
        · exact inductionHypothesis start
        · exact inductionHypothesis start.dropLast
        · rfl
        · exact inductionHypothesis (start ++ [part])

/-- What can be followed can be followed in any tree that has the same directories, or more, and
leads to the same location there. -/
theorem follow_of_directories {after : FileTree}
    (keeps : ∀ place, tree.node? place = some .directory → after.node? place = some .directory)
    (found : tree.follow start parts = .ok location) :
    after.follow start parts = .ok location := by
  induction parts generalizing start with
  | nil => exact found
  | cons part parts inductionHypothesis =>
    rw [FileTree.follow] at found
    cases here : tree.node? start with
    | none => simp [here] at found
    | some node =>
      cases node with
      | file text => simp [here] at found
      | directory =>
        simp only [here] at found
        rw [FileTree.follow, keeps start here]
        dsimp only
        split_ifs at found ⊢ <;> exact inductionHypothesis found

/-- What can be followed can still be followed in a tree that has grown. -/
theorem Grown.follow {targets : Location → Prop} {after : FileTree}
    (grown : Grown targets tree after) (found : tree.follow start parts = .ok location) :
    after.follow start parts = .ok location :=
  follow_of_directories (fun _ => grown.keeps_directory) found

/-- The parts that finding a path follows. -/
def wayTo (path : String) : List String :=
  if endsInSlash path then FilePath.parts path ++ ["."] else FilePath.parts path

/-- The parts that finding a path follows lead to its location. The part that stands for a slash at
the end leads nowhere else. -/
theorem walk_wayTo (path : String) : walk [] (wayTo path) = FilePath.location path := by
  unfold wayTo
  split_ifs
  · rw [walk_append]
    rfl
  · rfl

/-- The parts of a path can be followed unless there is a zero character in it. -/
theorem checkedParts_eq_ok : checkedParts path = .ok parts ↔
    '\x00' ∉ path.toList ∧ FilePath.parts path = parts := by
  unfold checkedParts
  by_cases zero : '\x00' ∈ path.toList
  · simp [zero]
  · simp [zero]

/-- A path is found where the way along its parts ends, when the way can be gone and something is
there. -/
theorem find_eq_ok : tree.find path = .ok (location, node) ↔
    '\x00' ∉ path.toList ∧ tree.follow [] (wayTo path) = .ok location ∧
      tree.node? location = some node := by
  constructor
  · intro found
    obtain ⟨parts, checked, found⟩ := bind_eq_ok.mp found
    obtain ⟨free, rfl⟩ := checkedParts_eq_ok.mp checked
    obtain ⟨place, followed, found⟩ := bind_eq_ok.mp found
    cases here : tree.node? place with
    | none =>
      simp only [here] at found
      cases found
    | some own =>
      simp only [here] at found
      cases found
      exact ⟨free, followed, here⟩
  · rintro ⟨free, followed, there⟩
    have checked := checkedParts_eq_ok.mpr ⟨free, rfl⟩
    refine bind_eq_ok.mpr ⟨_, checked, bind_eq_ok.mpr ⟨location, followed, ?_⟩⟩
    simp only [there]
    rfl

/-- A path leads where it always leads. -/
theorem location_of_find (found : tree.find path = .ok (location, node)) :
    location = FilePath.location path := by
  obtain ⟨_, followed, _⟩ := find_eq_ok.mp found
  rw [eq_walk_of_follow followed, walk_wayTo]

/-- A file is read when its path leads to it and it holds text. A file without text cannot be read,
and a directory neither. -/
theorem read_eq_ok {text : String} : tree.read path = .ok text ↔
    tree.find path = .ok (FilePath.location path, .file (some text)) := by
  unfold FileTree.read
  rw [bind_eq_ok]
  constructor
  · rintro ⟨⟨place, node⟩, found, given⟩
    rw [found, ← location_of_find found]
    cases node with
    | directory => cases given
    | file own =>
      cases own with
      | none => cases given
      | some own =>
        cases given
        rfl
  · intro found
    exact ⟨_, found, rfl⟩

/-- A path is that of a directory when it leads to one, at the location that is known from the path
alone. -/
theorem isDirectory_iff : tree.isDirectory path = true ↔
    tree.find path = .ok (FilePath.location path, .directory) := by
  unfold isDirectory
  constructor
  · intro there
    split at there
    · rename_i place found
      rw [found, ← location_of_find found]
    · cases there
  · intro found
    rw [found]

/-- A path is that of a file when it leads to one, whether the file holds text or not. No path with
a slash at its end is. -/
theorem isFile_iff : tree.isFile path = true ↔
    ∃ text, tree.find path = .ok (FilePath.location path, .file text) := by
  unfold isFile
  constructor
  · intro there
    split at there
    · rename_i place text found
      exact ⟨text, by rw [found, ← location_of_find found]⟩
    · cases there
  · rintro ⟨text, found⟩
    rw [found]

/-- A path that led somewhere leads to what is there now. -/
theorem Grown.find {targets : Location → Prop} {after : FileTree} {now : Node}
    (grown : Grown targets tree after) (found : tree.find path = .ok (location, node))
    (there : after.node? location = some now) : after.find path = .ok (location, now) := by
  obtain ⟨free, followed, _⟩ := find_eq_ok.mp found
  exact find_eq_ok.mpr ⟨free, grown.follow followed, there⟩

/-- A file that is not written is read as before. -/
theorem Grown.read {targets : Location → Prop} {after : FileTree} {text : String}
    (grown : Grown targets tree after) (given : tree.read path = .ok text)
    (elsewhere : ¬ targets (FilePath.location path)) : after.read path = .ok text := by
  have found := read_eq_ok.mp given
  obtain ⟨_, _, there⟩ := find_eq_ok.mp found
  exact read_eq_ok.mpr (grown.find found (grown.keeps_file there elsewhere))

/-- Parts lead to a directory. -/
def LeadsToDirectory (tree : FileTree) (parts : List String) : Prop :=
  ∃ location, tree.follow [] parts = .ok location ∧ tree.node? location = some .directory

/-- Parts that lead to a directory lead to one in a grown tree. -/
theorem Grown.leadsToDirectory {targets : Location → Prop} {after : FileTree}
    (grown : Grown targets tree after) (there : tree.LeadsToDirectory parts) :
    after.LeadsToDirectory parts := by
  obtain ⟨location, followed, directory⟩ := there
  exact ⟨location, grown.follow followed, grown.keeps_directory directory⟩

/-- The parts of a path to a directory lead to one, without the slash that may be at its end, which
asks for nothing more. -/
theorem leadsToDirectory_of_isDirectory (there : tree.isDirectory path = true) :
    tree.LeadsToDirectory (FilePath.parts path) := by
  obtain ⟨-, followed, directory⟩ := find_eq_ok.mp (isDirectory_iff.mp there)
  unfold wayTo at followed
  split_ifs at followed
  · rw [follow_append] at followed
    obtain ⟨place, before, dot⟩ := bind_eq_ok.mp followed
    have same : FilePath.location path = place := eq_walk_of_follow dot
    exact ⟨place, before, same ▸ directory⟩
  · exact ⟨_, followed, directory⟩

/-- The path of a directory is that of a directory in a grown tree. -/
theorem Grown.isDirectory {targets : Location → Prop} {after : FileTree}
    (grown : Grown targets tree after) (there : tree.isDirectory path = true) :
    after.isDirectory path = true := by
  have found := isDirectory_iff.mp there
  obtain ⟨_, _, directory⟩ := find_eq_ok.mp found
  exact isDirectory_iff.mpr (grown.find found (grown.keeps_directory directory))

/-- A file that is not written stays a file. -/
theorem Grown.isFile {targets : Location → Prop} {after : FileTree}
    (grown : Grown targets tree after) (there : tree.isFile path = true)
    (elsewhere : ¬ targets (FilePath.location path)) : after.isFile path = true := by
  obtain ⟨text, found⟩ := isFile_iff.mp there
  obtain ⟨_, _, file⟩ := find_eq_ok.mp found
  exact isFile_iff.mpr ⟨text, grown.find found (grown.keeps_file file elsewhere)⟩

/-- A path to a file is no path to a directory. -/
theorem isDirectory_of_isFile (there : tree.isFile path = true) :
    tree.isDirectory path = false := by
  obtain ⟨text, found⟩ := isFile_iff.mp there
  simp [FileTree.isDirectory, found]

end Follow

/-! ## Writing files -/

section Write

variable {targets : Location → Prop} {tree after : FileTree} {path text : String}

/-- What a write that succeeds has done: the way to the file could be gone, no directory was at its
end, and the text is there now. -/
theorem write_eq_ok (written : tree.write path text = .ok after) :
    '\x00' ∉ path.toList ∧ endsInSlash path = false ∧
      tree.follow [] (FilePath.parts path) = .ok (FilePath.location path) ∧
      tree.node? (FilePath.location path) ≠ some .directory ∧
      after = tree.put (FilePath.location path) (.file (some text)) := by
  unfold FileTree.write at written
  simp only [bind_eq_ok, checkedParts_eq_ok] at written
  obtain ⟨parts, ⟨free, rfl⟩, place, followed, written⟩ := written
  obtain rfl : place = FilePath.location path := eq_walk_of_follow followed
  split_ifs at written with refused
  obtain ⟨slash, noDirectory⟩ := not_or.mp refused
  exact ⟨free, by simpa using slash, followed, noDirectory, (Except.ok.inj written).symm⟩

/-- A tree grows by a write. -/
theorem grown_of_write (written : tree.write path text = .ok after)
    (target : targets (FilePath.location path)) : Grown targets tree after := by
  obtain ⟨-, -, -, noDirectory, rfl⟩ := write_eq_ok written
  exact .file .same target noDirectory

/-- What was written is read. -/
theorem read_of_write (written : tree.write path text = .ok after) :
    after.read path = .ok text := by
  have grown : Grown (fun _ => True) tree after := grown_of_write written trivial
  obtain ⟨free, slash, followed, noDirectory, rfl⟩ := write_eq_ok written
  have way : wayTo path = FilePath.parts path := by simp [wayTo, slash]
  refine read_eq_ok.mpr (find_eq_ok.mpr ⟨free, ?_, node?_put_self (ne_root noDirectory) tree _⟩)
  rw [way]
  exact grown.follow followed

/-- Another path reads what it read before, when it leads elsewhere or to the same text. A path that
could not be read before may be readable now. -/
theorem read_of_write_other {other content : String} (written : tree.write path text = .ok after)
    (given : tree.read other = .ok content)
    (same : FilePath.location other = FilePath.location path → content = text) :
    after.read other = .ok content := by
  by_cases elsewhere : FilePath.location other = FilePath.location path
  · have grown : Grown (fun _ => True) tree after := grown_of_write written trivial
    obtain ⟨-, -, -, noDirectory, rfl⟩ := write_eq_ok written
    obtain rfl := same elsewhere
    have found := read_eq_ok.mp given
    refine read_eq_ok.mpr (grown.find found ?_)
    rw [elsewhere]
    exact node?_put_self (ne_root noDirectory) tree _
  · have grown : Grown (· = FilePath.location path) tree after := grown_of_write written rfl
    exact grown.read given elsewhere

end Write

/-! ## Making directories -/

section Make

variable {targets : Location → Prop} {tree after : FileTree} {parts : List String}

/-- A directory that is there is left alone. -/
theorem ensureDirectory_of_there (there : tree.LeadsToDirectory parts) :
    tree.ensureDirectory parts = .ok tree := by
  obtain ⟨location, followed, directory⟩ := there
  have refused : tree.makeDirectory parts = .error .exists := by
    simp [makeDirectory, followed, directory, bind, Except.bind, throw, throwThe,
      MonadExceptOf.throw]
  simp [ensureDirectory, refused, followed, directory]

/-- A directory is made where nothing is. -/
theorem makeDirectory_eq_ok (made : tree.makeDirectory parts = .ok after) :
    ∃ location, tree.follow [] parts = .ok location ∧ tree.node? location = none ∧
      after = tree.put location .directory := by
  unfold makeDirectory at made
  obtain ⟨location, followed, made⟩ := bind_eq_ok.mp made
  split_ifs at made with taken
  exact ⟨location, followed, by simpa using taken, (Except.ok.inj made).symm⟩

/-- A directory that was ensured was there, or was made where nothing was, at the end of a way that
could be gone. -/
theorem ensureDirectory_cases (ensured : tree.ensureDirectory parts = .ok after) :
    (tree.LeadsToDirectory parts ∧ after = tree) ∨
      ∃ location, tree.follow [] parts = .ok location ∧ tree.node? location = none ∧
        after = tree.put location .directory := by
  cases made : tree.makeDirectory parts with
  | ok next =>
    obtain rfl : next = after := by simpa [ensureDirectory, made] using ensured
    exact Or.inr (makeDirectory_eq_ok made)
  | error fault =>
    cases followed : tree.follow [] parts with
    | error other => cases fault <;> simp [ensureDirectory, made, followed] at ensured
    | ok location =>
      by_cases directory : tree.node? location = some .directory
      · have there : tree.LeadsToDirectory parts := ⟨location, followed, directory⟩
        have same : tree = after := by simpa [ensureDirectory_of_there there] using ensured
        exact Or.inl ⟨there, same.symm⟩
      · cases fault <;> simp [ensureDirectory, made, followed, directory] at ensured

/-- A directory that was ensured is there. -/
theorem ensureDirectory_eq_ok (ensured : tree.ensureDirectory parts = .ok after) :
    Grown targets tree after ∧ after.LeadsToDirectory parts := by
  rcases ensureDirectory_cases ensured with ⟨there, rfl⟩ | ⟨location, followed, free, rfl⟩
  · exact ⟨.same, there⟩
  · have grown : Grown targets tree (tree.put location .directory) := .directory .same free
    have noDirectory : tree.node? location ≠ some .directory := by simp [free]
    exact ⟨grown, location, grown.follow followed, node?_put_self (ne_root noDirectory) tree _⟩

/-- Directories that are made from the outermost inwards, and the innermost of them, when there was
no fault. -/
theorem ensureBelow_spec (above : List String) (tree : FileTree) (parts : List String) :
    Grown targets tree (tree.ensureBelow parts above).1 ∧
      ((tree.ensureBelow parts above).2 = none →
        (tree.ensureBelow parts above).1.LeadsToDirectory parts) := by
  induction above generalizing tree parts with
  | nil =>
    rw [ensureBelow]
    cases ensured : tree.ensureDirectory parts with
    | ok after =>
      obtain ⟨grown, there⟩ := ensureDirectory_eq_ok ensured
      exact ⟨grown, fun _ => there⟩
    | error fault => exact ⟨.same, nofun⟩
  | cons name above inductionHypothesis =>
    rw [ensureBelow]
    cases ensured : tree.ensureDirectory parts with
    | ok after =>
      obtain ⟨grown, there⟩ := ensureDirectory_eq_ok ensured
      exact ⟨grown, fun _ => there⟩
    | error fault =>
      obtain ⟨outer, _⟩ := inductionHypothesis tree (name :: above).reverse
      cases fault
      case notFound =>
        dsimp only
        generalize tree.ensureBelow (name :: above).reverse above = made at outer
        obtain ⟨middle, fault⟩ := made
        cases fault with
        | some fault => exact ⟨outer, nofun⟩
        | none =>
          dsimp only at outer ⊢
          cases again : middle.ensureDirectory parts with
          | ok after =>
            obtain ⟨grown, there⟩ := ensureDirectory_eq_ok again
            exact ⟨outer.trans grown, fun _ => there⟩
          | error fault => exact ⟨outer, nofun⟩
      all_goals exact ⟨.same, nofun⟩

/-- The directories of a path, when there was no fault, are there. With a fault or without, the tree
has grown by directories at most. -/
theorem makeDirectories_spec (tree : FileTree) (path : String) :
    Grown targets tree (tree.makeDirectories path).1 ∧
      ((tree.makeDirectories path).2 = none →
        '\x00' ∉ path.toList ∧
          (tree.makeDirectories path).1.LeadsToDirectory (FilePath.parts path)) := by
  unfold makeDirectories
  cases checked : checkedParts path with
  | error fault => exact ⟨.same, nofun⟩
  | ok parts =>
    obtain ⟨free, rfl⟩ := checkedParts_eq_ok.mp checked
    obtain ⟨grown, there⟩ := ensureBelow_spec (FilePath.movingParts path).dropLast.reverse tree
      (FilePath.parts path)
    exact ⟨grown, fun made => ⟨free, there made⟩⟩

/-- Directories that are there are left alone. -/
theorem makeDirectories_of_there {path : String} (free : '\x00' ∉ path.toList)
    (there : tree.LeadsToDirectory (FilePath.parts path)) :
    tree.makeDirectories path = (tree, none) := by
  have checked := checkedParts_eq_ok.mpr ⟨free, rfl⟩
  have ensured := ensureDirectory_of_there there
  simp only [makeDirectories, checked]
  cases (FilePath.movingParts path).dropLast.reverse <;> simp only [ensureBelow, ensured]

end Make

/-! ## Files below a directory -/

/-- An entry that counts for nothing can be put where none counts, without a change to those that
count. -/
theorem filterMap_put {Value Item : Type} (item? : Location × Value → Option Item)
    (location : Location) (value : Value) (entries : List (Location × Value))
    (old : ∀ kept, (location, kept) ∈ entries → item? (location, kept) = none)
    (new : item? (location, value) = none) :
    (Entries.put location value entries).filterMap item? = entries.filterMap item? := by
  induction entries with
  | nil => simp [Entries.put, new]
  | cons entry entries inductionHypothesis =>
    obtain ⟨held, kept⟩ := entry
    by_cases same : location = held
    · subst same
      have first := old kept List.mem_cons_self
      simp [Entries.put, new, first]
    · have rest := inductionHypothesis fun kept member => old kept (List.mem_cons_of_mem _ member)
      simp [Entries.put, same, List.filterMap_cons, rest]

/-- The names below a directory end in the name of the location, as there is at least one of them.
-/
theorem getLast?_of_namesBelow {directory location : Location} {names : List String}
    (below : namesBelow? directory location = some names) :
    names.getLast? = location.getLast? := by
  unfold namesBelow? at below
  split_ifs at below with inside
  obtain ⟨isPrefix, other⟩ := inside
  obtain ⟨rest, rfl⟩ := List.isPrefixOf_iff_prefix.mp isPrefix
  obtain rfl : rest = names := by simpa using below
  cases rest with
  | nil => simp at other
  | cons first rest => rw [List.getLast?_append_of_ne_nil _ (List.cons_ne_nil _ _)]

/-- The files below a directory that have a wanted name are the same as before, when no wanted name
is written to. -/
theorem Grown.filesBelow {targets : Location → Prop} {before after : FileTree}
    (grown : Grown targets before after) (directory : Location) {wanted : String → Bool}
    (unwanted : ∀ location, targets location → location.getLast?.any wanted = false) :
    after.filesBelow directory wanted = before.filesBelow directory wanted := by
  unfold FileTree.filesBelow
  dsimp only
  congr 1
  induction grown with
  | same => rfl
  | @directory tree made _ free inductionHypothesis =>
    rw [← inductionHypothesis, put]
    refine filterMap_put _ _ _ _ (fun kept member => ?_) rfl
    have noDirectory : tree.node? made ≠ some .directory := by simp [free]
    have absent : tree.nodes.lookup made = none := by simpa [node?, ne_root noDirectory] using free
    simpa using List.lookup_eq_none_iff.mp absent _ member
  | @file tree written text _ target noDirectory inductionHypothesis =>
    rw [← inductionHypothesis, put]
    have counts_for_nothing :
        ((namesBelow? directory written).filter fun names => names.getLast?.any wanted) = none := by
      rw [Option.filter_eq_none_iff]
      intro names below
      rw [getLast?_of_namesBelow below]
      simp [unwanted written target]
    refine filterMap_put _ _ _ _ (fun kept _ => ?_) counts_for_nothing
    cases kept with
    | file text => exact counts_for_nothing
    | directory => rfl

end TypedClients.FileTree
