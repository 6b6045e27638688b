import Mathlib.Data.List.Induction
import Mathlib.Data.List.Lex
import Mathlib.Data.List.Sort
import Mathlib.Data.String.Basic
import TypedClients.Proofs.FileTree

/-!
# Files below a directory

In a tree every location has one node, and what is not the root is reached by a name in a directory.
The files below a directory are those that a walk from entry to entry reaches. They are listed in
the order of the names on the way to them, each once, so that the list does not depend on the order
in which the tree lists its nodes.

`FileBelow` follows entries from a directory to a file, and the listing takes the nodes whose
locations begin with that of the directory. That they agree is where a tree has to be a tree: every
node but the root is an entry of a directory.
-/

namespace TypedClients.FileTree

/-- A name that an entry of a directory can have. -/
def IsEntryName (name : String) : Prop :=
  name ≠ "" ∧ name ≠ "." ∧ name ≠ ".." ∧ '/' ∉ name.toList

instance (name : String) : Decidable (IsEntryName name) :=
  inferInstanceAs (Decidable (_ ∧ _))

/-- Every location is listed once, the root as a directory if at all, and any other location by the
name of an entry in a directory. -/
structure IsTree (tree : FileTree) : Prop where
  distinct : (tree.nodes.map Prod.fst).Nodup
  placed : ∀ entry ∈ tree.nodes, entry = ([], .directory) ∨
    (∃ name ∈ entry.1.getLast?, IsEntryName name) ∧
      tree.node? entry.1.dropLast = some .directory

/-- Names lead from a directory to a file, each but the last one to a directory. -/
inductive FileBelow (tree : FileTree) : Location → List String → Prop where
  | entry {directory : Location} {name : String} {text : Option String}
      (there : tree.node? (directory ++ [name]) = some (.file text)) :
      FileBelow tree directory [name]
  | deeper {directory : Location} {name : String} {names : List String}
      (there : tree.node? (directory ++ [name]) = some .directory)
      (below : FileBelow tree (directory ++ [name]) names) :
      FileBelow tree directory (name :: names)

variable {tree other : FileTree} {directory location : Location} {names : List String}
  {node : Node}

/-! ## Nodes -/

/-- What is somewhere is listed there, the root apart. -/
theorem IsTree.node?_eq_some_iff (isTree : tree.IsTree) (below : location ≠ []) :
    tree.node? location = some node ↔ (location, node) ∈ tree.nodes := by
  rw [node?, if_neg below, Entries.lookup_eq_some_iff_mem isTree.distinct]

/-- A tree whose nodes are listed in another order has the same ones, since each location is listed
once. -/
theorem IsTree.node?_of_perm (isTree : tree.IsTree) (reordered : other.nodes.Perm tree.nodes)
    (location : Location) : other.node? location = tree.node? location := by
  unfold node?
  split
  · rfl
  · have distinct : (other.nodes.map Prod.fst).Nodup :=
      (reordered.map Prod.fst).nodup_iff.mpr isTree.distinct
    ext node
    rw [Entries.lookup_eq_some_iff_mem distinct, Entries.lookup_eq_some_iff_mem isTree.distinct,
      reordered.mem_iff]

/-- Whether nodes form a tree does not depend on their order. -/
theorem IsTree.of_perm (isTree : tree.IsTree) (reordered : other.nodes.Perm tree.nodes) :
    other.IsTree where
  distinct := (reordered.map Prod.fst).nodup_iff.mpr isTree.distinct
  placed entry member := by
    rw [reordered.mem_iff] at member
    simpa only [isTree.node?_of_perm reordered] using isTree.placed entry member

/-- Paths lead to the same in trees with the same nodes. -/
theorem follow_congr (same : ∀ place, other.node? place = tree.node? place)
    (start : Location) (parts : List String) :
    other.follow start parts = tree.follow start parts := by
  induction parts generalizing start with
  | nil => rfl
  | cons part parts inductionHypothesis =>
    simp only [follow, same, inductionHypothesis]

/-- Trees with the same at every location find the same at every path. -/
theorem find_congr (same : ∀ place, other.node? place = tree.node? place) (path : String) :
    other.find path = tree.find path := by
  simp only [find, same, follow_congr same]

/-- Whatever is in a tree is in a directory, under the name of an entry. -/
theorem IsTree.parent (isTree : tree.IsTree) {name : String}
    (there : tree.node? (directory ++ [name]) = some node) :
    IsEntryName name ∧ tree.node? directory = some .directory := by
  have listed := (isTree.node?_eq_some_iff (by simp)).mp there
  rcases isTree.placed _ listed with root | ⟨⟨own, last, valid⟩, inside⟩
  · simp at root
  · obtain rfl : name = own := by simpa using last
    exact ⟨valid, by simpa using inside⟩

/-- The way to anything in a tree goes through directories, by names of entries. The induction is on
the way, from its end. -/
theorem IsTree.way (isTree : tree.IsTree) (there : tree.node? (directory ++ names) = some node) :
    (∀ name ∈ names, IsEntryName name) ∧
      (names ≠ [] → tree.node? directory = some .directory) := by
  induction names using List.reverseRecOn generalizing node with
  | nil => simp
  | append_singleton names name inductionHypothesis =>
    rw [← List.append_assoc] at there
    obtain ⟨valid, inside⟩ := isTree.parent there
    obtain ⟨others, outside⟩ := inductionHypothesis inside
    refine ⟨List.forall_mem_append.mpr ⟨others, by simpa using valid⟩, fun _ => ?_⟩
    by_cases last : names = []
    · simpa [last] using inside
    · exact outside last

/-- A file is below a directory when it is at the end of the names from there. In a tree the
directories between the two are there as well, so the walk goes all the way. -/
theorem IsTree.fileBelow_iff (isTree : tree.IsTree) : FileBelow tree directory names ↔
    names ≠ [] ∧ ∃ text, tree.node? (directory ++ names) = some (.file text) := by
  constructor
  · intro below
    induction below with
    | @entry directory name text there => exact ⟨List.cons_ne_nil _ _, text, there⟩
    | @deeper directory name names there below inductionHypothesis =>
      obtain ⟨-, text, file⟩ := inductionHypothesis
      exact ⟨List.cons_ne_nil _ _, text, by simpa using file⟩
  · rintro ⟨filled, text, file⟩
    induction names generalizing directory with
    | nil => exact absurd rfl filled
    | cons name names inductionHypothesis =>
      by_cases last : names = []
      · subst last
        exact .entry file
      · have split : directory ++ name :: names = (directory ++ [name]) ++ names := by simp
        rw [split] at file
        exact .deeper ((isTree.way file).2 last) (inductionHypothesis last file)

/-! ## The list of the files -/

/-- The names below a directory are those that lead from it to the location, and there is at least
one. -/
theorem namesBelow?_eq_some_iff : namesBelow? directory location = some names ↔
    location = directory ++ names ∧ names ≠ [] := by
  unfold namesBelow?
  rw [Option.ite_none_right_eq_some, List.isPrefixOf_iff_prefix, Option.some.injEq]
  constructor
  · rintro ⟨⟨⟨rest, rfl⟩, differ⟩, rfl⟩
    simpa using differ
  · rintro ⟨rfl, filled⟩
    simpa using filled

/-- The names that an entry adds to the list. -/
def listed? (directory : Location) (wanted : String → Bool) : Location × Node →
    Option (List String)
  | (location, .file _) =>
    (namesBelow? directory location).filter fun names => names.getLast?.any wanted
  | (_, .directory) => none

/-- The files below a directory are taken from the nodes of the tree in any order, and sorted. -/
theorem filesBelow_eq (tree : FileTree) (directory : Location) (wanted : String → Bool) :
    tree.filesBelow directory wanted =
      (tree.nodes.filterMap (listed? directory wanted)).mergeSort fun a b => !decide (b < a) := by
  unfold filesBelow
  refine congrArg (fun names => List.mergeSort names fun a b => !decide (b < a))
    (List.filterMap_congr ?_)
  rintro ⟨location, node⟩ -
  cases node <;> rfl

/-- A node is listed when it is a file below the directory and its last name is wanted. How deep
below it lies makes no difference. -/
theorem listed?_eq_some_iff {wanted : String → Bool} {entry : Location × Node} :
    listed? directory wanted entry = some names ↔
      (∃ text, entry = (directory ++ names, .file text)) ∧ names ≠ [] ∧
        names.getLast?.any wanted = true := by
  obtain ⟨location, node⟩ := entry
  cases node with
  | directory => simp [listed?]
  | file text =>
    rw [listed?, Option.filter_eq_some_iff, namesBelow?_eq_some_iff]
    simp [and_assoc]

/-- The files that are listed are those of a wanted name below the directory, where to be below is
to be reached by entries. -/
theorem IsTree.mem_filesBelow (isTree : tree.IsTree) {wanted : String → Bool} :
    names ∈ tree.filesBelow directory wanted ↔
      FileBelow tree directory names ∧ names.getLast?.any wanted = true := by
  rw [filesBelow_eq, List.mem_mergeSort, List.mem_filterMap, isTree.fileBelow_iff]
  simp only [listed?_eq_some_iff]
  constructor
  · rintro ⟨entry, member, ⟨text, rfl⟩, filled, last⟩
    have below : directory ++ names ≠ [] := by simp [filled]
    exact ⟨⟨filled, text, (isTree.node?_eq_some_iff below).mpr member⟩, last⟩
  · rintro ⟨⟨filled, text, there⟩, last⟩
    have below : directory ++ names ≠ [] := by simp [filled]
    exact ⟨_, (isTree.node?_eq_some_iff below).mp there, ⟨text, rfl⟩, filled, last⟩

/-- No file is listed twice, as a tree has one node at a location, and the names to it are known
from the location. -/
theorem IsTree.nodup_filesBelow (isTree : tree.IsTree) (directory : Location)
    (wanted : String → Bool) : (tree.filesBelow directory wanted).Nodup := by
  rw [filesBelow_eq, (List.mergeSort_perm _ _).nodup_iff]
  have locations : (tree.nodes.Pairwise fun first second => first.1 ≠ second.1) :=
    List.pairwise_map.mp isTree.distinct
  refine List.pairwise_filterMap.mpr (locations.imp ?_)
  rintro first second differ names one names' two rfl
  obtain ⟨⟨_, rfl⟩, -⟩ := listed?_eq_some_iff.mp one
  obtain ⟨⟨_, rfl⟩, -⟩ := listed?_eq_some_iff.mp two
  exact differ rfl

/-- They are listed in the order of the names on the way to them, each once, so that the list is
known from its members. -/
theorem IsTree.sorted_filesBelow (isTree : tree.IsTree) (directory : Location)
    (wanted : String → Bool) : (tree.filesBelow directory wanted).Pairwise (· < ·) := by
  have ordered : (tree.filesBelow directory wanted).Pairwise fun first second =>
      (!decide (second < first)) = true := by
    rw [filesBelow_eq]
    refine List.pairwise_mergeSort (fun first second third one two => ?_) (fun first second => ?_) _
    · simp only [Bool.not_eq_true', decide_eq_false_iff_not, not_lt] at one two ⊢
      exact one.trans two
    · simpa using le_total first second
  refine (ordered.and (isTree.nodup_filesBelow directory wanted)).imp ?_
  rintro first second ⟨kept, differ⟩
  exact lt_of_le_of_ne (by simpa using kept) differ

/-- The order in which a tree lists its nodes does not matter. -/
theorem IsTree.filesBelow_of_perm (isTree : tree.IsTree) (reordered : other.nodes.Perm tree.nodes)
    (directory : Location) (wanted : String → Bool) :
    other.filesBelow directory wanted = tree.filesBelow directory wanted := by
  have same : (other.filesBelow directory wanted).Perm (tree.filesBelow directory wanted) := by
    rw [filesBelow_eq, filesBelow_eq]
    exact (List.mergeSort_perm _ _).trans
      ((reordered.filterMap _).trans (List.mergeSort_perm _ _).symm)
  exact same.eq_of_pairwise' ((isTree.of_perm reordered).sorted_filesBelow directory wanted)
    (isTree.sorted_filesBelow directory wanted)

end TypedClients.FileTree
