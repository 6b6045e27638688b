import TypedClients.Proofs.Command.Convergence
import TypedClients.Proofs.Command.Frame

/-!
# What a failed run leaves

A run that fails before it writes changes nothing. One that fails while it writes has written the
files before the fault that were out of date, in order, and nothing after it. So the files before
the fault are on disk with their texts, and no file that was up to date is touched.

What a run needs before it writes is `Ready`, and a plan fails exactly when that is missing. What it
has done at a fault while it writes is `Stopped`, which follows the two places where the fault can
be: the output directory, and one of the files. The loop over the files is taken apart at the fault
by `writeChanges_split`, and what is before it is a run that came to its end.
-/

namespace TypedClients

open FilePath

namespace Command

variable {workspace : Workspace} {request : GenerateRequest} {sources : Sources}
  {directory : String} {progress last : Progress} {changes : List FileChange}
  {clients : List GeneratedClient} {file : GeneratedFile} {fault : WriteFault}

/-! ## Up to the fault -/

/-- A run with a fault comes to its end with the files before one that it cannot write. What it has
done then is what a run of those files alone would have done. -/
theorem writeChanges_split (run : writeChanges directory progress changes = (last, some fault)) :
    ∃ written failing rest cause, changes = written ++ failing :: rest ∧
      writeChanges directory progress written = (last, none) ∧ failing.isStale = true ∧
      last.workspace.write (failing.target directory) failing.text = .error cause ∧
      fault = .file (failing.target directory) cause := by
  induction changes generalizing progress with
  | nil => cases (Prod.mk.inj run).2
  | cons change changes inductionHypothesis =>
    rw [writeChanges_cons] at run
    cases stale : change.isStale with
    | false =>
      rw [stale, if_neg Bool.false_ne_true] at run
      obtain ⟨written, failing, rest, cause, rfl, before, found⟩ := inductionHypothesis run
      refine ⟨change :: written, failing, rest, cause, rfl, ?_, found⟩
      rw [writeChanges_cons, stale, if_neg Bool.false_ne_true, before]
    | true =>
      rw [stale, if_pos rfl] at run
      cases written_now : progress.workspace.write (change.target directory) change.text with
      | error cause =>
        rw [written_now] at run
        obtain ⟨rfl, same⟩ := Prod.mk.inj run
        exact ⟨[], change, changes, cause, rfl, rfl, stale, written_now,
          (Option.some.inj same).symm⟩
      | ok workspace =>
        rw [written_now] at run
        obtain ⟨written, failing, rest, cause, rfl, before, found⟩ := inductionHypothesis run
        refine ⟨change :: written, failing, rest, cause, rfl, ?_, found⟩
        rw [writeChanges_cons, stale, if_pos rfl, written_now]
        exact before

/-- The files that are out of date are written in order, and no others: the run is a fold of writes
over these files. -/
theorem foldlM_of_writeChanges (run : writeChanges directory progress changes = (last, none)) :
    (changes.filter FileChange.isStale).foldlM
      (fun workspace change => workspace.write (change.target directory) change.text)
      progress.workspace = .ok last.workspace := by
  induction changes generalizing progress with
  | nil =>
    obtain rfl := writeChanges_nil run
    rfl
  | cons change changes inductionHypothesis =>
    rcases writeChanges_cons_cases run with ⟨fresh, rest⟩ | ⟨workspace, stale, written, rest⟩
    · have others := inductionHypothesis rest
      rw [List.filter_cons_of_neg (by simp [fresh])]
      exact others
    · rw [List.filter_cons_of_pos stale, List.foldlM_cons, written]
      exact inductionHypothesis rest

/-! ## What was done -/

/-- A file is in a directory with its text. -/
def Holds (workspace : Workspace) (directory : String) (file : GeneratedFile) : Prop :=
  workspace.read (join directory file.name) = .ok file.text

instance (workspace : Workspace) (directory : String) (file : GeneratedFile) :
    Decidable (Holds workspace directory file) :=
  inferInstanceAs (Decidable (_ = _))

/-- How a run that cannot write its files ends. -/
inductive Stopped (workspace last : Workspace) (directory : String) (files : List GeneratedFile) :
    WriteFault → Prop where
  /-- The output directory cannot be made, and no file is written. -/
  | directory {cause : FileTree.Fault}
      (made : workspace.makeDirectories directory = (last, some cause)) :
      Stopped workspace last directory files (.directory directory cause)
  /-- One file cannot be written. Of those before it the ones that were out of date are written, in
  order, so that all of them are there; of those after it none is written. -/
  | file {start : Workspace} {written rest : List GeneratedFile} {failing : GeneratedFile}
      {cause : FileTree.Fault} (made : workspace.makeDirectories directory = (start, none))
      (split : files = written ++ failing :: rest)
      (writes : (written.filter fun file => ¬ Holds workspace directory file).foldlM
        (fun workspace file => workspace.write (join directory file.name) file.text) start =
          .ok last)
      (there : ∀ file ∈ written, Holds last directory file)
      (stale : ¬ Holds workspace directory failing)
      (failed : last.write (join directory failing.name) failing.text = .error cause) :
      Stopped workspace last directory files (.file (join directory failing.name) cause)

/-- A file is set against the disk as out of date when it is not there. -/
theorem isStale_changeOf_eq (workspace : Workspace) (directory : String) (file : GeneratedFile) :
    (changeOf workspace directory file).isStale = decide (¬ Holds workspace directory file) := by
  rw [Bool.eq_iff_iff, decide_eq_true_iff, ← not_iff_not, Bool.not_eq_true, not_not]
  exact isStale_changeOf

/-- Of files that are set against the disk those that are not there are written, in their order. -/
theorem foldlM_changeOf {files : List GeneratedFile}
    (run : writeChanges directory progress (files.map (changeOf workspace directory)) =
      (last, none)) :
    (files.filter fun file => ¬ Holds workspace directory file).foldlM
      (fun workspace file => workspace.write (join directory file.name) file.text)
      progress.workspace = .ok last.workspace := by
  have writes := foldlM_of_writeChanges run
  have stale : FileChange.isStale ∘ changeOf workspace directory =
      fun file => decide (¬ Holds workspace directory file) := by
    funext file
    rw [Function.comp_apply, isStale_changeOf_eq]
  rw [List.filter_map, List.foldlM_map, stale] at writes
  exact writes

/-- A run with a fault stops at a file, when the files before it agree. These are then on disk with
their texts, and nothing behind the file was looked at. -/
theorem stopped_of_writeChanges {start : Workspace} {files : List GeneratedFile}
    (made : workspace.makeDirectories directory = (start, none))
    (agree : Agree workspace directory (files.map (changeOf workspace directory)))
    (run : writeChanges directory ⟨start, 0, 0⟩ (files.map (changeOf workspace directory)) =
      (last, some fault)) : Stopped workspace last.workspace directory files fault := by
  obtain ⟨before, failing, after, cause, split, ended, stale, failed, rfl⟩ :=
    writeChanges_split run
  obtain ⟨written, others, rfl, rfl, remaining⟩ := List.map_eq_append_iff.mp split
  obtain ⟨file, rest, rfl, rfl, rfl⟩ := List.map_eq_cons_iff.mp remaining
  rw [List.map_append] at agree
  have there := read_of_made made ended (looked_changeOf written)
    (agree.mono (List.subset_append_left _ _))
  rw [isStale_changeOf_eq, decide_eq_true_iff] at stale
  refine .file made rfl (foldlM_changeOf ended) ?_ stale failed
  intro file member
  exact there (changeOf workspace directory file) (List.mem_map_of_mem member)

/-- Everything that a run needs before it writes. -/
structure Ready (workspace : Workspace) (request : GenerateRequest) (sources : Sources)
    (clients : List GeneratedClient) : Prop where
  /-- The settings and all declarations can be read. -/
  given : sources.Given workspace request
  filled : sources.files ≠ []
  made : sources.Clients clients
  /-- No two clients have one file name. -/
  distinct : (clients.map fun client => client.file.name).Nodup

/-- Then there is a plan. -/
theorem Ready.plan_eq (ready : Ready workspace request sources clients) :
    plan workspace request = .ok (planOf workspace request sources.config clients) :=
  plan_eq_ok.mpr ⟨sources, clients, ready.given, ready.filled, ready.made, ready.distinct, rfl⟩

/-- Sources that there is a plan for are ready. -/
theorem exists_ready {planned : Plan} (given : sources.Given workspace request)
    (planned_eq : plan workspace request = .ok planned) :
    ∃ clients, Ready workspace request sources clients := by
  obtain ⟨clients, filled, made, distinct, -⟩ := given.exists_clients planned_eq
  exact ⟨clients, given, filled, made, distinct⟩

/-- A run with a fault stops at the output directory or at a file. The first is a fault before any
file is written. -/
theorem stopped_of_carryOut (ready : Ready workspace request sources clients)
    (free : ∀ declared ∈ sources.classes, '/' ∉ declared.name.toList)
    (run : carryOut workspace (planOf workspace request sources.config clients) =
      (last, some fault)) :
    Stopped workspace last.workspace (outputDirectory workspace request sources.config)
      (filesOf request sources.config.defaults clients) fault := by
  rcases carryOut_cases workspace (planOf workspace request sources.config clients) with
    ⟨after, cause, made, stopped⟩ | ⟨start, made, written⟩
  · rw [stopped] at run
    obtain ⟨rfl, same⟩ := Prod.mk.inj run
    obtain rfl := Option.some.inj same
    exact .directory made
  · rw [written] at run
    exact stopped_of_writeChanges made (agree_of_slash_free ready.made ready.distinct free) run

/-- A file that is there with its text when a run starts is as it was when the run ends: it is not
written itself, and a file that is written to its location has the same text. -/
theorem node?_of_holds (ready : Ready workspace request sources clients)
    (free : ∀ declared ∈ sources.classes, '/' ∉ declared.name.toList)
    (member : file ∈ filesOf request sources.config.defaults clients)
    (there : Holds workspace (outputDirectory workspace request sources.config) file) :
    (carryOut workspace (planOf workspace request sources.config clients)).1.workspace.tree.node?
        (workspace.location (join (outputDirectory workspace request sources.config) file.name)) =
      workspace.tree.node?
        (workspace.location
            (join (outputDirectory workspace request sources.config) file.name)) := by
  rcases node?_carryOut workspace (planOf workspace request sources.config clients)
    (workspace.location (join (outputDirectory workspace request sources.config) file.name)) with
    same | ⟨new, -, -⟩ | ⟨change, among, stale, place, -⟩
  · exact same
  · rw [Workspace.node?_of_read there] at new
    cases new
  · obtain ⟨other, also, rfl⟩ := List.mem_map.mp among
    obtain rfl := file_eq_of_location_eq ready.made ready.distinct free also member place
    rw [isStale_changeOf.mpr there] at stale
    cases stale

/-- A run of a plan with a fault fails. -/
theorem exitCode_of_fault {planned : Plan} (planned_eq : plan workspace request = .ok planned)
    (writes : request.check = false) (run : carryOut workspace planned = (last, some fault))
    (colors : Bool) : (request.run colors workspace).exitCode = 1 := by
  unfold GenerateRequest.run
  rw [planned_eq]
  dsimp only
  rw [if_neg (by simp [writes])]
  delta writePlan
  rw [run]

/-- A run that fails before it writes changes nothing, whichever fault it is: that of its own
directory, of the configuration, of an input or a declaration file, of no files at all, of the
layout, of two clients with one file name, or of the template of the attribute definitions. It fails
so unless it finds its settings and declarations, some files among them, and no two clients of one
file name. A run that fails while it writes, of classes without slashes in their names (no
identifier has one), leaves every file as it was that was up to date, and has every file before the
fault on disk with its text. -/
theorem failed_run_leaves (colors : Bool) (workspace : Workspace) (request : GenerateRequest) :
    (∀ fault, plan workspace request = .error fault →
        (¬ ∃ sources clients, Ready workspace request sources clients) ∧
          (request.run colors workspace).exitCode = 1 ∧
          (request.run colors workspace).workspace = workspace) ∧
      ∀ sources clients, Ready workspace request sources clients →
        ∃ planned, plan workspace request = .ok planned ∧
          planned.directory = outputDirectory workspace request sources.config ∧
          ∀ last fault, request.check = false → carryOut workspace planned = (last, some fault) →
            (request.run colors workspace).exitCode = 1 ∧
            (request.run colors workspace).workspace = last.workspace ∧
            ((∀ declared ∈ sources.classes, '/' ∉ declared.name.toList) →
              (∀ file ∈ filesOf request sources.config.defaults clients,
                Holds workspace planned.directory file →
                  last.workspace.tree.node?
                      (workspace.location (join planned.directory file.name)) =
                    workspace.tree.node?
                      (workspace.location (join planned.directory file.name))) ∧
                Stopped workspace last.workspace planned.directory
                  (filesOf request sources.config.defaults clients) fault) := by
  constructor
  · intro fault refused
    refine ⟨?_, run_of_refused refused colors⟩
    rintro ⟨sources, clients, ready⟩
    cases refused.symm.trans ready.plan_eq
  · intro sources clients ready
    have placed : (planOf workspace request sources.config clients).directory =
        outputDirectory workspace request sources.config := by
      simp only [planOf]
    refine ⟨_, ready.plan_eq, placed, fun last fault writes run => ?_⟩
    refine ⟨exitCode_of_fault ready.plan_eq writes run colors, ?_, fun free => ⟨?_, ?_⟩⟩
    · rw [run_workspace_of_plan ready.plan_eq writes, run]
    · intro file member there
      have same := node?_of_holds ready free member there
      rwa [run] at same
    · exact stopped_of_carryOut ready free run

/-- Declarations of two classes of one name. -/
def sameNames : String :=
  "\x7b\"clients\": [\x7b\"name\": \"Items\"\x7d, \x7b\"name\": \"Items\"\x7d]\x7d"

/-- A workspace with declarations of three classes. The file of the first one is there with its
text, and in the place of the last one is a directory. -/
def blockedShop : Workspace where
  tree := ⟨[(["shop.json"], .file (some
      ("\x7b\"clients\": [\x7b\"name\": \"Items\"\x7d, \x7b\"name\": \"Orders\"\x7d, " ++
        "\x7b\"name\": \"Returns\"\x7d]\x7d"))), (["Generated"], .directory),
    (["Generated", "Items_Generated.g.cs"], .file
      ((generateClient ⟨"", [], "Items", [], []⟩ .standard).toOption.map (·.file.text))),
    (["Generated", "Returns_Generated.g.cs"], .directory)]⟩
  directory := "/"

/-- Two clients of one name change nothing. A directory in the place of the third client stops the
run with the first client untouched and the second one written. -/
theorem blockedShop_stops :
    (shopRequest.run false (shopOf sameNames)).workspace = shopOf sameNames ∧
      ∃ clients planned,
        Ready blockedShop shopRequest (shopSources ["Items", "Orders", "Returns"]) clients ∧
        plan blockedShop shopRequest = .ok planned ∧
        (shopRequest.run false blockedShop).exitCode = 1 ∧
        Stopped blockedShop (shopRequest.run false blockedShop).workspace planned.directory
          (filesOf shopRequest .standard clients)
          (.file "/Generated/Returns_Generated.g.cs" .isDirectory) := by
  have refused : plan (shopOf sameNames) shopRequest =
      .error (.collision "Items_Generated.g.cs" []) := by
    decide +kernel
  have given : (shopSources ["Items", "Orders", "Returns"]).Given blockedShop shopRequest := by
    refine ⟨?_, ?_, _, List.flatten_singleton, .cons ?_ .nil⟩ <;> decide +kernel
  have free : ∀ declared ∈ (shopSources ["Items", "Orders", "Returns"]).classes,
      '/' ∉ declared.name.toList := by
    decide
  have evaluated : (plan blockedShop shopRequest).isOk = true ∧
      (carryOut blockedShop (planFor blockedShop shopRequest)).2 =
        some (.file "/Generated/Returns_Generated.g.cs" .isDirectory) := by
    decide +kernel
  have planned_eq := plan_planFor evaluated.1
  obtain ⟨clients, ready⟩ := exists_ready given planned_eq
  refine ⟨((failed_run_leaves false (shopOf sameNames) shopRequest).1 _ refused).2.2, clients, ?_⟩
  obtain ⟨planned, again, -, leaves⟩ :=
    (failed_run_leaves false blockedShop shopRequest).2 _ clients ready
  obtain rfl := Except.ok.inj (planned_eq.symm.trans again)
  obtain ⟨failed, changed, rest⟩ := leaves _ _ rfl (carryOut_planFor evaluated.2)
  rw [changed]
  exact ⟨_, ready, planned_eq, failed, (rest free).2⟩

end Command

end TypedClients
