import TypedClients.Declaration.Files
import TypedClients.Proofs.Command.Sources
import TypedClients.Proofs.FileTree.Below

/-!
# Declaration files of inputs

A file that is given is taken whatever its name is. A directory that is given stands for the files
below it whose extension is one of declarations, each once and in the order of the parts of their
paths. There is no list of files exactly when something is given that is neither, and the order in
which a file system lists its entries has no part in it.

`StandsFor` relates an input to the files that it stands for and mentions no search. It determines
them, since the files below a directory are given by a relation between locations and are sorted by
the parts of their paths.
-/

namespace TypedClients

namespace FilePath

open Text

/-- A name ends in an extension behind its last dot, and begins with something else. -/
def HasExtension (name extension : String) : Prop :=
  ∃ stem, stem ≠ "" ∧ name = stem ++ "." ++ extension ∧ '.' ∉ extension.toList

/-- The extension that is found of a name is what stands behind its last dot, provided that
something stands in front of this dot. -/
theorem extensionOfName?_eq_some_iff {name extension : String} :
    extensionOfName? name = some extension ↔ HasExtension name extension := by
  unfold extensionOfName?
  dsimp only
  constructor
  · intro found
    split_ifs at found with short
    obtain rfl := Option.some.inj found
    cases left : name.toList.reverse.dropWhile (· != '.') with
    | nil => exact absurd (by simp [left]) short
    | cons first behind =>
      obtain ⟨rfl, split⟩ := cut_at_mark left
      have filled : behind ≠ [] := by
        rintro rfl
        exact short (by simp [left])
      have spelled : name.toList = behind.reverse ++ '.' :: afterLast '.' name.toList := by
        simpa [afterLast] using congrArg List.reverse split
      refine ⟨String.ofList behind.reverse, by simpa using filled, ?_, ?_⟩
      · rw [← String.toList_inj]
        simpa using spelled
      · simpa using (afterLast_eq_iff.mp rfl).1
  · rintro ⟨stem, filled, rfl, free⟩
    have spelled : (stem ++ "." ++ extension).toList =
        stem.toList ++ '.' :: extension.toList := by simp
    have last : afterLast '.' (stem ++ "." ++ extension).toList = extension.toList :=
      afterLast_eq_iff.mpr ⟨free, Or.inr ⟨stem.toList, spelled⟩⟩
    have left : (stem ++ "." ++ extension).toList.reverse.dropWhile (· != '.') =
        '.' :: stem.toList.reverse := by
      rw [spelled, List.reverse_append, List.reverse_cons, List.append_assoc,
        List.singleton_append]
      exact (cut_behind_run (ne_mark_of_not_mem (by simpa using free)) (by simp)).2
    have long : ¬ ('.' :: stem.toList.reverse).length ≤ 1 := by simpa using filled
    rw [last, left, if_neg long, String.ofList_toList]

/-- The parts of a path to something below are those of the path to the directory, and the names on
the way from there. -/
theorem parts_foldl_join {names : List String} (valid : ∀ name ∈ names, FileTree.IsEntryName name)
    (path : String) : parts (names.foldl join path) = parts path ++ names := by
  induction names generalizing path with
  | nil => simp
  | cons name names inductionHypothesis =>
    obtain ⟨⟨filled, -, -, free⟩, others⟩ := List.forall_mem_cons.mp valid
    rw [List.foldl_cons, inductionHypothesis others, parts_join (not_isAbsolute free),
      parts_of_name free filled, List.append_assoc, List.singleton_append]

end FilePath

namespace Workspace

variable {workspace : Workspace} {path : String}

/-- The location at the end of a path to a directory. -/
theorem find_of_isDirectory (there : workspace.isDirectory path = true) :
    workspace.tree.find (workspace.absolute path) = .ok (workspace.location path, .directory) :=
  FileTree.isDirectory_iff.mp (isDirectory_iff.mp there).2

/-- The files found below a path are those the tree has below its location, each spelled as the path
with the names on the way to the file joined to it. -/
theorem filesBelow_eq (there : workspace.isDirectory path = true) (wanted : String → Bool) :
    workspace.filesBelow path wanted =
      (workspace.tree.filesBelow (workspace.location path) wanted).map fun names =>
        names.foldl FilePath.join path := by
  rw [filesBelow, find_of_isDirectory there]

/-- The order in which a tree lists its nodes does not matter for what is found in it, be it a
directory, a file, or what is below a directory. -/
theorem look_congr {tree : FileTree} (isTree : workspace.tree.IsTree)
    (reordered : tree.nodes.Perm workspace.tree.nodes) (path : String) (wanted : String → Bool) :
    isDirectory { workspace with tree } path = workspace.isDirectory path ∧
      isFile { workspace with tree } path = workspace.isFile path ∧
      filesBelow { workspace with tree } path wanted = workspace.filesBelow path wanted := by
  have found (path : String) : tree.find path = workspace.tree.find path :=
    FileTree.find_congr (isTree.node?_of_perm reordered) path
  refine ⟨?_, ?_, ?_⟩
  · simp only [isDirectory, FileTree.isDirectory, absolute, found]
  · simp only [isFile, FileTree.isFile, absolute, found]
  · simp only [filesBelow, absolute, found, isTree.filesBelow_of_perm reordered]

end Workspace

namespace Declaration

open Text

/-- A name of a declaration file: its extension is that of declarations, in any case. -/
def IsDeclarationFile (name : String) : Prop :=
  ∃ extension, FilePath.HasExtension name extension ∧ folded extension ∈ fileExtensions

/-- The test for the name of a declaration file holds of the names with one of the extensions that
can be read. -/
theorem isDeclarationName_iff {name : String} :
    isDeclarationName name = true ↔ IsDeclarationFile name := by
  have spelled (extension : String) :
      (∃ wanted ∈ fileExtensions, sameFolded extension wanted = true) ↔
        folded extension ∈ fileExtensions := by
    simp only [sameFolded_iff, fileExtensions]
    have json : folded "json" = "json" := by decide
    have yaml : folded "yaml" = "yaml" := by decide
    have yml : folded "yml" = "yml" := by decide
    simp [json, yaml, yml]
  simp only [IsDeclarationFile, ← FilePath.extensionOfName?_eq_some_iff, ← spelled]
  simp only [isDeclarationName, isExtension, List.any_eq_true, Option.any_eq_true]
  constructor
  · rintro ⟨wanted, member, extension, found, same⟩
    exact ⟨extension, found, wanted, member, same⟩
  · rintro ⟨extension, found, wanted, member, same⟩
    exact ⟨wanted, member, extension, found, same⟩

variable {workspace : Workspace} {input path : String} {inputs files others : List String}

/-- A path leads from an input, entry by entry, to a declaration file below it. -/
def LeadsBelow (workspace : Workspace) (input path : String) : Prop :=
  ∃ names name, workspace.tree.FileBelow (workspace.location input) names ∧
    names.getLast? = some name ∧ IsDeclarationFile name ∧ path = names.foldl FilePath.join input

/-- The files that an input stands for. -/
inductive StandsFor (workspace : Workspace) (input : String) : List String → Prop where
  /-- A file stands for itself. -/
  | file (there : workspace.isFile input = true) : StandsFor workspace input [input]
  /-- A directory stands for the declaration files below it, in the order of the parts of their
  paths; as no path is before itself, each is there once. -/
  | directory {files : List String} (there : workspace.isDirectory input = true)
      (complete : ∀ path, path ∈ files ↔ LeadsBelow workspace input path)
      (sorted : files.Pairwise fun first second =>
        FilePath.parts first < FilePath.parts second) :
      StandsFor workspace input files

/-- The declaration files below a directory are what it stands for. They are sorted, and each is
found once, as a tree has one node at a location. -/
theorem standsFor_filesBelow (isTree : workspace.tree.IsTree)
    (there : workspace.isDirectory input = true) :
    StandsFor workspace input (workspace.filesBelow input isDeclarationName) := by
  rw [Workspace.filesBelow_eq there]
  refine .directory there (fun path => ?_) ?_
  · simp only [List.mem_map, isTree.mem_filesBelow, Option.any_eq_true, isDeclarationName_iff,
      LeadsBelow]
    constructor
    · rintro ⟨names, ⟨below, name, last, wanted⟩, rfl⟩
      exact ⟨names, name, below, last, wanted, rfl⟩
    · rintro ⟨names, name, below, last, wanted, rfl⟩
      exact ⟨names, ⟨below, name, last, wanted⟩, rfl⟩
  · have ordered := isTree.sorted_filesBelow (workspace.location input) isDeclarationName
    refine List.pairwise_map.mpr (ordered.imp_of_mem fun {first second} one two before => ?_)
    have valid {names : List String} (member : names ∈
        workspace.tree.filesBelow (workspace.location input) isDeclarationName) :
        ∀ name ∈ names, FileTree.IsEntryName name := by
      obtain ⟨-, text, file⟩ := isTree.fileBelow_iff.mp (isTree.mem_filesBelow.mp member).1
      exact (isTree.way file).1
    rw [FilePath.parts_foldl_join (valid one), FilePath.parts_foldl_join (valid two)]
    exact List.append_left_lt before

/-- An input stands for one list of files: a directory for a sorted list without repetition of files
that are known one by one, and anything else for itself. -/
theorem StandsFor.unique (first : StandsFor workspace input files)
    (second : StandsFor workspace input others) : files = others := by
  have apart (file : workspace.isFile input = true)
      (directory : workspace.isDirectory input = true) : False := by
    rw [Workspace.isDirectory_of_isFile file] at directory
    cases directory
  cases first with
  | file there =>
    cases second with
    | file _ => rfl
    | directory also _ _ => exact (apart there also).elim
  | directory there complete sorted =>
    cases second with
    | file also => exact (apart also there).elim
    | directory _ alsoComplete alsoSorted =>
      have strict : Std.Irrefl fun first second : String =>
          FilePath.parts first < FilePath.parts second := ⟨fun _ => lt_irrefl _⟩
      have antisymmetric : Std.Antisymm fun first second : String =>
          FilePath.parts first < FilePath.parts second :=
        ⟨fun _ _ one two => absurd two (lt_asymm one)⟩
      exact sorted.eq_of_mem_iff alsoSorted fun path =>
        (complete path).trans (alsoComplete path).symm

/-- The files of an input are those that it stands for, and there are none exactly when it stands
for none. -/
theorem filesOfInput_eq_ok (isTree : workspace.tree.IsTree) :
    filesOfInput workspace input = .ok files ↔ StandsFor workspace input files := by
  have found : ∀ files, filesOfInput workspace input = .ok files →
      StandsFor workspace input files := by
    intro files given
    unfold filesOfInput at given
    split_ifs at given with directory file
    · cases given
      exact standsFor_filesBelow isTree directory
    · cases given
      exact .file file
  refine ⟨found files, fun stands => ?_⟩
  cases given : filesOfInput workspace input with
  | ok others => rw [(found others given).unique stands]
  | error fault =>
    unfold filesOfInput at given
    cases stands with
    | file there => simp [Workspace.isDirectory_of_isFile there, there] at given
    | directory there _ _ => simp [there] at given

/-- There are files for every list of inputs that are there, and for no other: the first input that
is neither a file nor a directory is a fault. -/
theorem exists_collectFiles_iff :
    (∃ files, collectFiles workspace inputs = .ok files) ↔
      ∀ input ∈ inputs, workspace.isFile input = true ∨ workspace.isDirectory input = true := by
  have one (input : String) : (∃ files, filesOfInput workspace input = .ok files) ↔
      workspace.isFile input = true ∨ workspace.isDirectory input = true := by
    unfold filesOfInput
    cases workspace.isDirectory input <;> cases workspace.isFile input <;> simp
  simp only [collectFiles_eq_ok, ← one]
  constructor
  · rintro ⟨files, found, each, -⟩
    induction each with
    | nil => exact fun _ member => absurd member List.not_mem_nil
    | cons own _ inductionHypothesis =>
      exact List.forall_mem_cons.mpr ⟨⟨_, own⟩, inductionHypothesis⟩
  · intro each
    induction inputs with
    | nil => exact ⟨_, [], .nil, rfl⟩
    | cons input inputs inductionHypothesis =>
      obtain ⟨⟨own, given⟩, others⟩ := List.forall_mem_cons.mp each
      obtain ⟨_, found, rest, -⟩ := inductionHypothesis others
      exact ⟨_, own :: found, .cons given rest, rfl⟩

/-- In a file tree there is a list of files unless some input is neither a file nor a directory. It
has the files that each input stands for, in the order of the inputs, and no order of the entries of
the tree leads to another list. -/
theorem inputs_are_expanded (workspace : Workspace) (isTree : workspace.tree.IsTree)
    (inputs : List String) :
    ((∃ fault, collectFiles workspace inputs = .error fault) ↔
        ∃ input ∈ inputs, workspace.isFile input = false ∧ workspace.isDirectory input = false) ∧
      (∀ files, collectFiles workspace inputs = .ok files ↔
        ∃ found, List.Forall₂ (StandsFor workspace) inputs found ∧ found.flatten = files) ∧
      ∀ tree : FileTree, tree.nodes.Perm workspace.tree.nodes →
        collectFiles { workspace with tree } inputs = collectFiles workspace inputs := by
  refine ⟨?_, fun files => ?_, fun tree reordered => ?_⟩
  · rw [← not_iff_not]
    have failed : (¬ ∃ fault, collectFiles workspace inputs = .error fault) ↔
        ∃ files, collectFiles workspace inputs = .ok files := by
      cases collectFiles workspace inputs <;> simp
    rw [failed, exists_collectFiles_iff]
    simp only [not_exists, not_and, Bool.not_eq_false, or_iff_not_imp_left, Bool.not_eq_true]
  · simp only [collectFiles_eq_ok, filesOfInput_eq_ok isTree]
  · have same (input : String) :
        filesOfInput { workspace with tree } input = filesOfInput workspace input := by
      obtain ⟨directory, file, below⟩ :=
        Workspace.look_congr isTree reordered input isDeclarationName
      simp only [filesOfInput, directory, file, below]
    rw [collectFiles, collectFiles, funext same]

/-- A workspace with declarations at several depths, and other files. -/
def library : Workspace where
  tree := ⟨[(["notes.txt"], .file none), (["in"], .directory), (["in", "b.YAML"], .file none),
    (["in", "a.b"], .directory), (["in", "a.b", "d.yml"], .file none),
    (["in", ".json"], .file none),
    (["in", "a"], .directory), (["in", "a", "c.json"], .file none)]⟩
  directory := "/"

/-- A directory before a file: a hidden file is left out, and the order goes by parts, so that
`a/c.json` comes before `a.b/d.yml`. The file is taken though its name is none of a declaration. -/
theorem library_is_expanded : library.tree.IsTree ∧
    ∃ found, List.Forall₂ (StandsFor library) ["in", "notes.txt"] found ∧
      found.flatten = ["in/a/c.json", "in/a.b/d.yml", "in/b.YAML", "notes.txt"] := by
  have isTree : library.tree.IsTree := ⟨by decide, by decide⟩
  have directory : library.isDirectory "in" = true := by decide +kernel
  have place : library.location "in" = ["in"] := by decide +kernel
  have below : library.tree.filesBelow ["in"] isDeclarationName =
      [["a", "c.json"], ["a.b", "d.yml"], ["b.YAML"]] := by
    have listed : (library.tree.nodes.filterMap
        (FileTree.listed? ["in"] isDeclarationName)).Perm
          [["a", "c.json"], ["a.b", "d.yml"], ["b.YAML"]] := by decide +kernel
    exact ((List.mergeSort_perm _ _).trans listed).eq_of_pairwise'
      (isTree.sorted_filesBelow _ _) (by decide)
  have first : filesOfInput library "in" = .ok ["in/a/c.json", "in/a.b/d.yml", "in/b.YAML"] := by
    rw [filesOfInput, if_pos directory, Workspace.filesBelow_eq directory, place, below]
    decide
  have second : filesOfInput library "notes.txt" = .ok ["notes.txt"] := by decide +kernel
  have collected := collectFiles_eq_ok.mpr ⟨_, .cons first (.cons second .nil), rfl⟩
  exact ⟨isTree, ((inputs_are_expanded library isTree _).2.1 _).mp collected⟩

end Declaration

end TypedClients
