import TypedClients.Proofs.Command.Frame

/-!
# Changes inside the output directory

The file of a client lies where the output directory joined with its name leads. A class is called
what its declaration says, so this may be anywhere. A run changes nothing but the output directory,
the way to it and files inside it, if the file of every class lies inside or is up to date; and
where the output directory is there from the start, a run that comes to its end does so only then.

For the converse, a class whose file is out of date has had it written by a run that came to its
end. So what is at its location has changed, and only inside may anything have changed.
-/

namespace TypedClients

open FilePath

/-! ## Reading in two trees -/

/-- A file that is read in a tree is read in an earlier one that has its directories, if the same
file was there. -/
theorem FileTree.read_of_directories {before after : FileTree} {path text : String}
    (keeps : ∀ place, after.node? place = some .directory → before.node? place = some .directory)
    (given : after.read path = .ok text)
    (there : before.node? (FilePath.location path) = some (.file (some text))) :
    before.read path = .ok text := by
  obtain ⟨free, followed, -⟩ := find_eq_ok.mp (read_eq_ok.mp given)
  exact read_eq_ok.mpr (find_eq_ok.mpr ⟨free, follow_of_directories keeps followed, there⟩)

namespace Workspace

variable {workspace after : Workspace} {path text : String}

/-- A directory that is there need not be made. -/
theorem makeDirectories_of_isDirectory (there : workspace.isDirectory path = true) :
    workspace.makeDirectories path = (workspace, none) := by
  have found := (isDirectory_iff.mp there).2
  obtain ⟨free, -, -⟩ := FileTree.find_eq_ok.mp (FileTree.isDirectory_iff.mp found)
  rw [makeDirectories,
    FileTree.makeDirectories_of_there free (FileTree.leadsToDirectory_of_isDirectory found)]

end Workspace

namespace Command

variable {workspace : Workspace} {request : GenerateRequest} {sources : Sources} {planned : Plan}
  {last progress : Progress} {directory : String} {changes : List FileChange} {change : FileChange}
  {clients : List GeneratedClient} {file : GeneratedFile} {declared : ClassDeclaration}

/-! ## What is left of a written file -/

/-- Of the files that were written to one location, the last one is there at the end. So what is
there is the text of some change for that location, perhaps not of the first one. -/
theorem exists_last_write (run : writeChanges directory progress changes = (last, none))
    (member : change ∈ changes) (stale : change.isStale = true) :
    ∃ other ∈ changes, other.isStale = true ∧
      progress.workspace.location (other.target directory) =
        progress.workspace.location (change.target directory) ∧
      last.workspace.read (other.target directory) = .ok other.text := by
  induction changes generalizing progress change with
  | nil => cases member
  | cons first changes inductionHypothesis =>
    rcases writeChanges_cons_cases run with ⟨fresh, rest⟩ | ⟨workspace, written_now, written, rest⟩
    · have later : change ∈ changes := by
        refine (List.mem_cons.mp member).resolve_left ?_
        rintro rfl
        rw [fresh] at stale
        cases stale
      obtain ⟨other, among, found⟩ := inductionHypothesis rest later stale
      exact ⟨other, List.mem_cons_of_mem _ among, found⟩
    · have still := Workspace.location_of_write written
      by_cases again : ∃ later ∈ changes, later.isStale = true ∧
          progress.workspace.location (later.target directory) =
            progress.workspace.location (change.target directory)
      · obtain ⟨later, among, also, same⟩ := again
        obtain ⟨other, own, writes, leads, there⟩ := inductionHypothesis rest among also
        rw [still, still] at leads
        exact ⟨other, List.mem_cons_of_mem _ own, writes, leads.trans same, there⟩
      · have own : change = first := by
          refine (List.mem_cons.mp member).resolve_right fun later => again ?_
          exact ⟨change, later, stale, rfl⟩
        subst own
        refine ⟨change, List.mem_cons_self, stale, rfl,
          read_of_writeChanges rest (Workspace.read_of_write written) ?_⟩
        intro later among also same
        rw [still, still] at same
        exact absurd ⟨later, among, also, same.symm⟩ again

/-- Where the output directory is there, files that are out of date leave something new: at the
location of such a file there is a text that was not there before, perhaps that of another file. -/
theorem changed_of_isStale (there : workspace.isDirectory planned.directory = true)
    (run : carryOut workspace planned = (last, none))
    (looked : ∀ change ∈ planned.changes,
      change.existing = (workspace.read (change.target planned.directory)).toOption)
    (member : change ∈ planned.changes) (stale : change.isStale = true) :
    ∃ text, last.workspace.tree.node? (workspace.location (change.target planned.directory)) =
        some (.file (some text)) ∧
      workspace.tree.node? (workspace.location (change.target planned.directory)) ≠
        some (.file (some text)) := by
  obtain ⟨after, made, written⟩ := carryOut_eq_ok run
  obtain ⟨rfl, -⟩ := Prod.mk.inj ((Workspace.makeDirectories_of_isDirectory there).symm.trans made)
  obtain ⟨other, among, also, leads, now⟩ := exists_last_write written member stale
  have grown := (grown_of_carryOut run).1
  have same : workspace.location (other.target planned.directory) =
      workspace.location (change.target planned.directory) := leads
  have node := Workspace.node?_of_read now
  rw [grown.location_eq, same] at node
  refine ⟨other.text, node, fun before => ?_⟩
  -- Then it would have been read, as no directory is new, and not be out of date.
  have keeps : ∀ place, last.workspace.tree.node? place = some .directory →
      workspace.tree.node? place = some .directory := by
    intro place directory
    rcases node?_writeChanges planned.directory ⟨workspace, 0, 0⟩ planned.changes place with
      kept | ⟨_, _, _, _, file⟩
    · rw [written] at kept
      exact kept.symm.trans directory
    · rw [written, directory] at file
      cases file
  have read_before : workspace.read (other.target planned.directory) = .ok other.text := by
    rw [Workspace.read, grown.absolute_eq] at now
    rw [← same] at before
    exact FileTree.read_of_directories keeps now before
  rw [(isStale_eq_false_iff other (looked other among)).mpr read_before] at also
  cases also

/-! ## Where changes lie -/

/-- A location below a directory. -/
def Inside (directory location : Location) : Prop :=
  directory <+: location ∧ location ≠ directory

instance (directory location : Location) : Decidable (Inside directory location) :=
  inferInstanceAs (Decidable (_ ∧ _))

/-- A file that lies directly in a directory lies inside it. -/
theorem inside_of_eq_append {directory location : Location} {name : String}
    (place : location = directory ++ [name]) : Inside directory location := by
  subst place
  exact ⟨List.prefix_append _ _, by simp⟩

/-- What differs is a file inside a directory, or a new directory on the way to it. -/
def Confined (before after : Workspace) (directory : String) : Prop :=
  ∀ location, after.tree.node? location ≠ before.tree.node? location →
    (before.tree.node? location = none ∧ after.tree.node? location = some .directory ∧
        OnWay (before.absolute directory) location) ∨
      Inside (before.location directory) location ∧
        ∃ text, after.tree.node? location = some (.file (some text))

/-- The file of a class is in a directory with its text already, or it belongs inside. -/
def KeepsInside (workspace : Workspace) (directory : String) (defaults : Defaults)
    (declared : ClassDeclaration) : Prop :=
  OnDisk workspace directory defaults declared ∨
    Inside (workspace.location directory)
      (workspace.location (join directory (declared.name ++ clientEnding)))

/-- The file of a class without slashes in its name belongs inside. -/
theorem keepsInside_of_slash_free (free : '/' ∉ declared.name.toList) (workspace : Workspace)
    (directory : String) (defaults : Defaults) :
    KeepsInside workspace directory defaults declared :=
  Or.inr (inside_of_eq_append (location_of_clientName free workspace directory))

/-- A file that is out of date belongs inside, when those of all classes are kept inside. The
attribute definitions do so by their name. -/
theorem inside_of_isStale (made : sources.Clients clients)
    (kept : ∀ declared ∈ sources.classes,
      KeepsInside workspace directory sources.config.defaults declared)
    (member : file ∈ filesOf request sources.config.defaults clients)
    (stale : (changeOf workspace directory file).isStale = true) :
    Inside (workspace.location directory) (workspace.location (join directory file.name)) := by
  rcases mem_filesOf.mp member with ⟨client, own, rfl⟩ | ⟨-, rfl⟩
  · obtain ⟨declared, among, generated⟩ := made.exists_class own
    rcases kept declared among with ⟨again, alike, there⟩ | inside
    · obtain rfl := Except.ok.inj (generated.symm.trans alike)
      rw [isStale_changeOf.mpr there] at stale
      cases stale
    · rwa [name_of_generateClient generated]
  · exact inside_of_eq_append (location_of_attributeFile workspace directory _)

/-- A run changes nothing outside, when the files of all classes are kept inside. What it has
changed is a directory on the way, or a file that was out of date. -/
theorem confined_of_keepsInside (given : sources.Given workspace request)
    (kept : ∀ declared ∈ sources.classes, KeepsInside workspace
      (outputDirectory workspace request sources.config) sources.config.defaults declared)
    (colors : Bool) : Confined workspace (request.run colors workspace).workspace
      (outputDirectory workspace request sources.config) := by
  intro location changed
  rcases run_workspace_cases colors workspace request with same | ⟨planned, planned_eq, same⟩
  · rw [same] at changed
    exact absurd rfl changed
  · obtain ⟨clients, -, made, -, rfl⟩ := given.exists_clients planned_eq
    rw [same] at changed ⊢
    rcases node?_carryOut workspace (planOf workspace request sources.config clients) location with
      unchanged | directory | ⟨change, member, stale, rfl, text⟩
    · exact absurd unchanged changed
    · exact Or.inl directory
    · obtain ⟨file, among, rfl⟩ := List.mem_map.mp member
      exact Or.inr ⟨inside_of_isStale made kept among stale, _, text⟩

/-- A run of classes without slashes in their names (no identifier has one) changes nothing
outside. -/
theorem confined_of_slash_free (given : sources.Given workspace request)
    (free : ∀ declared ∈ sources.classes, '/' ∉ declared.name.toList) (colors : Bool) :
    Confined workspace (request.run colors workspace).workspace
      (outputDirectory workspace request sources.config) :=
  confined_of_keepsInside given
    (fun declared member => keepsInside_of_slash_free (free declared member) _ _ _) colors

/-- A run that changes nothing outside has kept the files of all classes inside, if it comes to its
end and its output directory was there from the start. -/
theorem keepsInside_of_confined (completed : Completes workspace request sources planned last)
    (there : workspace.isDirectory planned.directory = true)
    (confined : Confined workspace last.workspace planned.directory)
    (member : declared ∈ sources.classes) :
    KeepsInside workspace planned.directory sources.config.defaults declared := by
  obtain ⟨clients, -, made, -, rfl⟩ := completed.exists_clients
  obtain ⟨client, own, generated⟩ := made.exists_client member
  have written : client.file ∈ filesOf request sources.config.defaults clients :=
    mem_filesOf.mpr (Or.inl ⟨client, own, rfl⟩)
  cases stale : (changeOf workspace (outputDirectory workspace request sources.config)
      client.file).isStale with
  | false => exact Or.inl ⟨client, generated, isStale_changeOf.mp stale⟩
  | true =>
    obtain ⟨text, now, before⟩ := changed_of_isStale there completed.carriedOut
      (looked_planOf sources.config clients) (List.mem_map_of_mem written) stale
    rcases confined _ (fun same => before (same.symm.trans now)) with
      ⟨-, directory, -⟩ | ⟨inside, -⟩
    · rw [now] at directory
      cases directory
    · refine Or.inr ?_
      rwa [← name_of_generateClient generated]

/-- A run changes nothing when it finds no sources. When it finds some, it changes nothing but
files inside its output directory, that directory and the way to it, if every class has its file
there with its text already or has its file inside. Of the runs that come to their end in a
directory that was there from the start, this is true only then. -/
theorem changes_confined (colors : Bool) (workspace : Workspace) (request : GenerateRequest) :
    ((¬ ∃ sources : Sources, sources.Given workspace request) →
        (request.run colors workspace).workspace = workspace) ∧
      ∀ sources : Sources, sources.Given workspace request →
        ((∀ declared ∈ sources.classes, KeepsInside workspace
            (outputDirectory workspace request sources.config) sources.config.defaults declared) →
          Confined workspace (request.run colors workspace).workspace
            (outputDirectory workspace request sources.config)) ∧
        ∀ planned last, Completes workspace request sources planned last →
          workspace.isDirectory planned.directory = true →
          Confined workspace last.workspace planned.directory →
          ∀ declared ∈ sources.classes,
            KeepsInside workspace planned.directory sources.config.defaults declared := by
  constructor
  · intro none
    rcases run_workspace_cases colors workspace request with same | ⟨planned, planned_eq, -⟩
    · exact same
    · obtain ⟨sources, -, given, -⟩ := plan_eq_ok.mp planned_eq
      exact absurd ⟨sources, given⟩ none
  · intro sources given
    refine ⟨fun kept => confined_of_keepsInside given kept colors, ?_⟩
    intro planned last completed there confined declared member
    exact keepsInside_of_confined completed there confined member

/-- A workspace with a class the name of which leads into a directory below the output
directory. -/
def partsShop : Workspace where
  tree := ⟨[(["shop.json"], .file (some "\x7b\"name\": \"parts/Items\"\x7d")),
    (["Generated"], .directory), (["Generated", "parts"], .directory)]⟩
  directory := "/"

/-- Its file lies inside, and nothing else is changed. A slash in the name of a class does no harm
as such. -/
theorem partsShop_stays_inside :
    Completes partsShop shopRequest (shopSources ["parts/Items"])
        (planFor partsShop shopRequest) (endOf partsShop shopRequest) ∧
      Confined partsShop (shopRequest.run false partsShop).workspace
        (outputDirectory partsShop shopRequest .standard) ∧
      ∀ declared ∈ (shopSources ["parts/Items"]).classes,
        KeepsInside partsShop (planFor partsShop shopRequest).directory .standard declared := by
  have inside : ∀ declared ∈ (shopSources ["parts/Items"]).classes,
      Inside (partsShop.location (outputDirectory partsShop shopRequest .standard))
        (partsShop.location (join (outputDirectory partsShop shopRequest .standard)
          (declared.name ++ clientEnding))) := by
    decide +kernel
  have there : partsShop.isDirectory (planFor partsShop shopRequest).directory = true := by
    decide +kernel
  have same : outputDirectory partsShop shopRequest .standard =
      (planFor partsShop shopRequest).directory := by
    decide +kernel
  have completed : Completes partsShop shopRequest (shopSources ["parts/Items"])
      (planFor partsShop shopRequest) (endOf partsShop shopRequest) := by
    refine completes_of_isOk ⟨?_, ?_, _, List.flatten_singleton, .cons ?_ .nil⟩ ?_ ?_ <;>
      decide +kernel
  obtain ⟨kept, only⟩ := (changes_confined false partsShop shopRequest).2 _ completed.given
  have confined : Confined partsShop (shopRequest.run false partsShop).workspace
      (outputDirectory partsShop shopRequest .standard) :=
    kept fun declared member => Or.inr (inside declared member)
  refine ⟨completed, confined, only _ _ completed there ?_⟩
  rw [run_workspace_of_plan completed.planned_eq rfl, completed.carriedOut, same] at confined
  exact confined

/-- A workspace with a class the name of which leads out of the output directory. -/
def upwardShop : Workspace :=
  shopOf "\x7b\"name\": \"../Items\"\x7d"

/-- Its file is written beside the output directory, and the run reports no failure. Nothing is
asked of the name of a class before a file is called by it. -/
theorem upwardShop_escapes :
    upwardShop.tree.node? ["Items_Generated.g.cs"] = none ∧
      (shopRequest.run false upwardShop).exitCode = 0 ∧
      ¬ Confined upwardShop (shopRequest.run false upwardShop).workspace
        (outputDirectory upwardShop shopRequest .standard) := by
  have new : upwardShop.tree.node? ["Items_Generated.g.cs"] = none := by decide +kernel
  have written : (shopRequest.run false upwardShop).exitCode = 0 ∧
      (shopRequest.run false upwardShop).workspace.tree.node?
        ["Items_Generated.g.cs"] ≠ some .directory ∧
      (shopRequest.run false upwardShop).workspace.tree.node? ["Items_Generated.g.cs"] ≠ none := by
    decide +kernel
  have beside : ¬ Inside (upwardShop.location (outputDirectory upwardShop shopRequest .standard))
      ["Items_Generated.g.cs"] := by
    decide +kernel
  obtain ⟨finished, no_directory, there⟩ := written
  refine ⟨new, finished, fun confined => ?_⟩
  rcases confined ["Items_Generated.g.cs"] (fun same => there (same.trans new)) with
    ⟨-, directory, -⟩ | ⟨inside, -⟩
  · exact no_directory directory
  · exact beside inside

end Command

end TypedClients
