import TypedClients.Command.Generate
import TypedClients.Proofs.Command.Targets

/-!
# Carrying out a plan

While a plan is carried out, the workspace grows by the directories above its output directory and
by the files that were out of date, and by nothing else. A file that is on disk with its text stays
there unless a file with another text is written to its location. So at the end of a run every
client is there exactly when no two of them with different texts share a location. Whether they do
is not what a plan is refused for: it looks at names, and one location has many.
-/

namespace TypedClients

open FilePath

namespace Command

variable {targets : Location → Prop} {directory : String} {progress last : Progress}
  {changes : List FileChange} {change : FileChange}

/-! ## Writing what is out of date -/

section

-- The check that the two sides are the same would otherwise go into the characters of the path.
attribute [local irreducible] Workspace.write

/-- One more file, and then the others. -/
theorem writeChanges_cons (directory : String) (progress : Progress) (change : FileChange)
    (changes : List FileChange) :
    writeChanges directory progress (change :: changes) =
      if change.isStale then
        match progress.workspace.write (change.target directory) change.text with
        | .error fault => (progress, some (.file (change.target directory) fault))
        | .ok workspace => writeChanges directory
            { progress with workspace, written := progress.written + 1 } changes
      else writeChanges directory { progress with unchanged := progress.unchanged + 1 } changes :=
  rfl

end

/-- The next file is on disk already, or is written now. In both cases the writing goes on with the
others, and only a file that cannot be written ends it. -/
theorem writeChanges_cons_cases
    (run : writeChanges directory progress (change :: changes) = (last, none)) :
    (change.isStale = false ∧ writeChanges directory
        { progress with unchanged := progress.unchanged + 1 } changes = (last, none)) ∨
      ∃ workspace, change.isStale = true ∧
        progress.workspace.write (change.target directory) change.text = .ok workspace ∧
        writeChanges directory { progress with workspace, written := progress.written + 1 }
          changes = (last, none) := by
  rw [writeChanges_cons] at run
  cases stale : change.isStale with
  | false =>
    simp only [stale, Bool.false_eq_true, if_false] at run
    exact Or.inl ⟨rfl, run⟩
  | true =>
    simp only [stale, if_true] at run
    cases written : progress.workspace.write (change.target directory) change.text with
    | error fault =>
      simp only [written] at run
      cases (Prod.mk.inj run).2
    | ok workspace =>
      simp only [written] at run
      exact Or.inr ⟨workspace, rfl, rfl, run⟩

/-- Without changes nothing is written: the progress that was made before is the progress in the
end. -/
theorem writeChanges_nil (run : writeChanges directory progress [] = (last, none)) :
    progress = last :=
  (Prod.mk.inj run).1

/-- The workspace grows by the files that are written, and keeps all else. The induction is on the
files. -/
theorem grown_of_writeChanges (run : writeChanges directory progress changes = (last, none))
    (target : ∀ change ∈ changes,
      targets (progress.workspace.location (change.target directory))) :
    progress.workspace.Grown targets last.workspace := by
  induction changes generalizing progress with
  | nil =>
    obtain rfl := writeChanges_nil run
    exact .same
  | cons change changes inductionHypothesis =>
    obtain ⟨own, others⟩ := List.forall_mem_cons.mp target
    rcases writeChanges_cons_cases run with ⟨-, rest⟩ | ⟨workspace, -, written, rest⟩
    · have grown := inductionHypothesis rest others
      exact grown
    · have grown := Workspace.grown_of_write written own
      refine grown.trans (inductionHypothesis rest fun other member => ?_)
      rw [grown.location_eq]
      exact others other member

/-- A file that is on disk stays there, when no other text is written to its location. The induction
is on the files that are still to be written. -/
theorem read_of_writeChanges {path text : String}
    (run : writeChanges directory progress changes = (last, none))
    (given : progress.workspace.read path = .ok text)
    (same : ∀ change ∈ changes, change.isStale = true → progress.workspace.location path =
      progress.workspace.location (change.target directory) → text = change.text) :
    last.workspace.read path = .ok text := by
  induction changes generalizing progress with
  | nil =>
    obtain rfl := writeChanges_nil run
    exact given
  | cons change changes inductionHypothesis =>
    obtain ⟨own, others⟩ := List.forall_mem_cons.mp same
    rcases writeChanges_cons_cases run with ⟨-, rest⟩ | ⟨workspace, stale, written, rest⟩
    · exact inductionHypothesis rest given others
    · refine inductionHypothesis rest (Workspace.read_of_write_other written given (own stale))
        fun other member => ?_
      rw [Workspace.location_of_write written, Workspace.location_of_write written]
      exact others other member

/-- No two files with different texts share a location. -/
def Agree (workspace : Workspace) (directory : String) (changes : List FileChange) : Prop :=
  ∀ first ∈ changes, ∀ second ∈ changes,
    workspace.location (first.target directory) = workspace.location (second.target directory) →
      first.text = second.text

/-- Agreement is a matter of where the files are. It is kept when paths lead to the same locations
as before. -/
theorem Agree.of_location_eq {workspace after : Workspace}
    (agree : Agree workspace directory changes)
    (same : ∀ path, after.location path = workspace.location path) :
    Agree after directory changes := by
  intro first among second alike shared
  rw [same, same] at shared
  exact agree first among second alike shared

/-- Some of the changes agree when all of them do. -/
theorem Agree.mono {workspace : Workspace} {fewer : List FileChange}
    (agree : Agree workspace directory changes) (among : fewer ⊆ changes) :
    Agree workspace directory fewer := fun first own second also =>
  agree first (among own) second (among also)

/-- What was out of date is on disk at the end, where the texts agree: it was written, and no later
file has changed it. -/
theorem stale_of_writeChanges (run : writeChanges directory progress changes = (last, none))
    (agree : Agree progress.workspace directory changes) {change : FileChange}
    (member : change ∈ changes) (stale : change.isStale = true) :
    last.workspace.read (change.target directory) = .ok change.text := by
  induction changes generalizing progress with
  | nil => cases member
  | cons first changes inductionHypothesis =>
    rcases writeChanges_cons_cases run with ⟨fresh, rest⟩ | ⟨workspace, -, written, rest⟩
    · rcases List.mem_cons.mp member with rfl | member
      · rw [fresh] at stale
        cases stale
      · exact inductionHypothesis rest (agree.mono (List.subset_cons_self _ _)) member
    · have agree_after : Agree workspace directory (first :: changes) :=
        agree.of_location_eq (Workspace.location_of_write written)
      rcases List.mem_cons.mp member with rfl | member
      · exact read_of_writeChanges rest (Workspace.read_of_write written) fun other alike _ =>
          agree_after change List.mem_cons_self other (List.mem_cons_of_mem _ alike)
      · exact inductionHypothesis rest (agree_after.mono (List.subset_cons_self _ _)) member

/-- Where a plan has its files. -/
def Plan.Writes (planned : Plan) (workspace : Workspace) (location : Location) : Prop :=
  ∃ change ∈ planned.changes, workspace.location (change.target planned.directory) = location

instance (planned : Plan) (workspace : Workspace) (location : Location) :
    Decidable (planned.Writes workspace location) :=
  inferInstanceAs (Decidable (∃ change ∈ _, _))

section Run

variable {workspace : Workspace} {request : GenerateRequest} {planned : Plan}

/-- A plan has its output directory and is written from there, or there is a fault, with the
directories that were made up to it. -/
theorem carryOut_cases (workspace : Workspace) (planned : Plan) :
    (∃ after fault, workspace.makeDirectories planned.directory = (after, some fault) ∧
        carryOut workspace planned =
          (⟨after, 0, 0⟩, some (.directory planned.directory fault))) ∨
      ∃ after, workspace.makeDirectories planned.directory = (after, none) ∧
        carryOut workspace planned =
          writeChanges planned.directory ⟨after, 0, 0⟩ planned.changes := by
  -- Its equation would be found by evaluating the paths in it.
  delta carryOut
  cases made : workspace.makeDirectories planned.directory with
  | mk after fault =>
    cases fault with
    | some fault => exact Or.inl ⟨after, fault, rfl, rfl⟩
    | none => exact Or.inr ⟨after, rfl, rfl⟩

/-- A plan that is carried out to its end has its output directory, and is written from there. -/
theorem carryOut_eq_ok (run : carryOut workspace planned = (last, none)) :
    ∃ after, workspace.makeDirectories planned.directory = (after, none) ∧
      writeChanges planned.directory ⟨after, 0, 0⟩ planned.changes = (last, none) := by
  rcases carryOut_cases workspace planned with ⟨after, fault, -, stopped⟩ | ⟨after, made, written⟩
  · rw [stopped] at run
    cases (Prod.mk.inj run).2
  · exact ⟨after, made, written ▸ run⟩

/-- The workspace grows by the files of the plan, and needs no more directories for them. -/
theorem grown_of_carryOut (run : carryOut workspace planned = (last, none)) :
    workspace.Grown (planned.Writes workspace) last.workspace ∧
      last.workspace.makeDirectories planned.directory = (last.workspace, none) := by
  obtain ⟨after, made, rest⟩ := carryOut_eq_ok run
  have grown : workspace.Grown (planned.Writes workspace) after :=
    Workspace.grown_of_makeDirectories made
  have writing : after.Grown (planned.Writes workspace) last.workspace :=
    grown_of_writeChanges rest fun change member => ⟨change, member, (grown.location_eq _).symm⟩
  exact ⟨grown.trans writing, Workspace.makeDirectories_of_grown made writing⟩

/-- What a plan sets against the disk is up to date when it is there with its text. A file that
cannot be read counts as one that is not there. -/
theorem isStale_eq_false_iff (change : FileChange)
    (looked : change.existing = (workspace.read (change.target directory)).toOption) :
    change.isStale = false ↔ workspace.read (change.target directory) = .ok change.text := by
  cases given : workspace.read (change.target directory) with
  | error fault =>
    rw [given] at looked
    simp [FileChange.isStale, FileChange.kind, looked, Except.toOption]
  | ok existing =>
    rw [given] at looked
    by_cases same : existing = change.text <;>
      simp [FileChange.isStale, FileChange.kind, looked, Except.toOption, same]

/-- A file that is set against the disk is up to date when it is there with its text. -/
theorem isStale_changeOf {file : GeneratedFile} :
    (changeOf workspace directory file).isStale = false ↔
      workspace.read (join directory file.name) = .ok file.text :=
  isStale_eq_false_iff (changeOf workspace directory file)
    (by simp only [changeOf, FileChange.target])

/-- Files that were written in the directories for them, as far as they were out of date, are on
disk with their texts, when no two of them with different texts share a location. -/
theorem read_of_made {start : Workspace}
    (made : workspace.makeDirectories directory = (start, none))
    (run : writeChanges directory ⟨start, 0, 0⟩ changes = (last, none))
    (looked : ∀ change ∈ changes,
      change.existing = (workspace.read (change.target directory)).toOption)
    (agree : Agree workspace directory changes) :
    ∀ change ∈ changes, last.workspace.read (change.target directory) = .ok change.text := by
  intro change member
  have grown : workspace.Grown (fun _ => False) start :=
    Workspace.grown_of_makeDirectories made
  have agree_after := agree.of_location_eq grown.location_eq
  cases stale : change.isStale with
  | true => exact stale_of_writeChanges run agree_after member stale
  | false =>
    have there := (isStale_eq_false_iff change (looked change member)).mp stale
    exact read_of_writeChanges run (grown.read there id) fun other alike _ =>
      agree_after change member other alike

/-- Files that are set against the disk are looked for there. -/
theorem looked_changeOf (files : List GeneratedFile) :
    ∀ change ∈ files.map (changeOf workspace directory),
      change.existing = (workspace.read (change.target directory)).toOption := by
  intro change member
  obtain ⟨file, -, rfl⟩ := List.mem_map.mp member
  simp only [changeOf, FileChange.target]

/-- A plan looks at the disk for each of its files. -/
theorem looked_planOf (config : ProjectConfig) (clients : List GeneratedClient) :
    ∀ change ∈ (planOf workspace request config clients).changes, change.existing =
      (workspace.read
        (change.target (planOf workspace request config clients).directory)).toOption :=
  looked_changeOf (filesOf request config.defaults clients)

/-- Every file of a plan that was carried out to its end is on disk with its text, where no two
files with different texts share a location. -/
theorem read_of_planOf {config : ProjectConfig} {clients : List GeneratedClient}
    (run : carryOut workspace (planOf workspace request config clients) = (last, none))
    (agree : Agree workspace (outputDirectory workspace request config)
      (planOf workspace request config clients).changes) {file : GeneratedFile}
    (member : file ∈ filesOf request config.defaults clients) :
    last.workspace.read (join (outputDirectory workspace request config) file.name) =
      .ok file.text := by
  obtain ⟨after, made, written⟩ := carryOut_eq_ok run
  exact read_of_made made written (looked_planOf config clients) agree
    (changeOf workspace (outputDirectory workspace request config) file)
    (List.mem_map_of_mem member)

/-- The sources of a request are what they are: the settings are read from one file, the inputs
stand for one list of files, and each of these has one reading. -/
theorem Sources.Given.unique {first second : Sources} (one : first.Given workspace request)
    (other : second.Given workspace request) : first = second := by
  obtain ⟨configured, collected, contents, whole, loaded⟩ := one
  obtain ⟨again, alike, others, also, read⟩ := other
  obtain ⟨config, files, classes⟩ := first
  obtain ⟨_, _, _⟩ := second
  dsimp only at *
  obtain rfl := Except.ok.inj (configured.symm.trans again)
  obtain rfl := Except.ok.inj (collected.symm.trans alike)
  have same := Except.ok.inj ((mapM_eq_ok.mpr loaded).symm.trans (mapM_eq_ok.mpr read))
  rw [← whole, ← also, same]

end Run

/-! ## Clients that share a location -/

section Shared

variable {workspace : Workspace} {request : GenerateRequest} {sources : Sources} {planned : Plan}

/-- A run finds the sources of a request, plans, and carries out its plan to the end. -/
structure Completes (workspace : Workspace) (request : GenerateRequest) (sources : Sources)
    (planned : Plan) (last : Progress) : Prop where
  given : sources.Given workspace request
  planned_eq : plan workspace request = .ok planned
  carriedOut : carryOut workspace planned = (last, none)

/-- The file of a class is in a directory, with the text of its client. -/
def OnDisk (workspace : Workspace) (directory : String) (defaults : Defaults)
    (declared : ClassDeclaration) : Prop :=
  ∃ client, generateClient declared defaults = .ok client ∧
    workspace.read (join directory client.file.name) = .ok client.file.text

/-- A plan is that of the clients of its sources, which have different names. -/
theorem Sources.Given.exists_clients (given : sources.Given workspace request)
    (planned_eq : plan workspace request = .ok planned) :
    ∃ clients, sources.files ≠ [] ∧ sources.Clients clients ∧
      (clients.map fun client => client.file.name).Nodup ∧
      planned = planOf workspace request sources.config clients := by
  obtain ⟨found, clients, own, filled, made, distinct, planned_eq⟩ := plan_eq_ok.mp planned_eq
  obtain rfl := given.unique own
  exact ⟨clients, filled, made, distinct, planned_eq⟩

/-- A completed run has found a declaration file, and its plan is the plan of the clients of its
files, whose names are distinct. -/
theorem Completes.exists_clients (completed : Completes workspace request sources planned last) :
    ∃ clients, sources.files ≠ [] ∧ sources.Clients clients ∧
      (clients.map fun client => client.file.name).Nodup ∧
      planned = planOf workspace request sources.config clients :=
  completed.given.exists_clients completed.planned_eq

/-- The plan of a request, or an empty one. -/
def planFor (workspace : Workspace) (request : GenerateRequest) : Plan :=
  (plan workspace request).toOption.getD ⟨"", [], []⟩

/-- What was done when the plan of a request was carried out. -/
def endOf (workspace : Workspace) (request : GenerateRequest) : Progress :=
  (carryOut workspace (planFor workspace request)).1

/-- A run that plans at all plans what the chosen plan says. -/
theorem plan_planFor (planned : (plan workspace request).isOk = true) :
    plan workspace request = .ok (planFor workspace request) := by
  unfold planFor
  cases made : plan workspace request with
  | error fault => simp [made, Except.isOk, Except.toBool] at planned
  | ok planned => rfl

/-- A run that was carried out ended in the chosen workspace, and with the fault that is given. -/
theorem carryOut_planFor {fault : Option WriteFault}
    (ended : (carryOut workspace (planFor workspace request)).2 = fault) :
    carryOut workspace (planFor workspace request) = (endOf workspace request, fault) := by
  rw [endOf, ← ended]

/-- A run comes to its end when there is a plan, and no fault. -/
theorem completes_of_isOk (given : sources.Given workspace request)
    (planned : (plan workspace request).isOk = true)
    (carriedOut : (carryOut workspace (planFor workspace request)).2 = none) :
    Completes workspace request sources (planFor workspace request) (endOf workspace request) where
  given := given
  planned_eq := plan_planFor planned
  carriedOut := carryOut_planFor carriedOut

/-- The files of a plan agree when the clients do, as the attribute definitions lie at no location
of a client. -/
theorem agree_planOf {clients : List GeneratedClient} (made : sources.Clients clients)
    (agree : ∀ one ∈ clients, ∀ other ∈ clients,
      workspace.location (join (outputDirectory workspace request sources.config) one.file.name) =
          workspace.location
            (join (outputDirectory workspace request sources.config) other.file.name) →
        one.file.text = other.file.text) :
    Agree workspace (outputDirectory workspace request sources.config)
      (planOf workspace request sources.config clients).changes := by
  intro first among second alike same
  obtain ⟨file, written, rfl⟩ := List.mem_map.mp among
  obtain ⟨other, beside, rfl⟩ := List.mem_map.mp alike
  have apart {client : GeneratedClient} (own : client ∈ clients) :=
    location_ne_attributes workspace (outputDirectory workspace request sources.config) made own
      sources.config.defaults.rootNamespace
  rcases mem_filesOf.mp written with ⟨client, own, rfl⟩ | ⟨-, rfl⟩
  · rcases mem_filesOf.mp beside with ⟨another, also, rfl⟩ | ⟨-, rfl⟩
    · exact agree client own another also same
    · exact absurd same (apart own)
  · rcases mem_filesOf.mp beside with ⟨another, also, rfl⟩ | ⟨-, rfl⟩
    · exact absurd same.symm (apart also)
    · rfl

/-- A run that comes to its end leaves every client on disk exactly when no two clients with
different texts are written to one location. That their names are different, as in every plan, is
not enough for this. -/
theorem clients_kept_iff (completed : Completes workspace request sources planned last) :
    (∀ declared ∈ sources.classes,
        OnDisk last.workspace planned.directory sources.config.defaults declared) ↔
      ∀ first ∈ sources.classes, ∀ second ∈ sources.classes, ∀ one other,
        generateClient first sources.config.defaults = .ok one →
        generateClient second sources.config.defaults = .ok other →
        workspace.location (join planned.directory one.file.name) =
            workspace.location (join planned.directory other.file.name) →
          one.file.text = other.file.text := by
  obtain ⟨clients, -, made, -, rfl⟩ := completed.exists_clients
  have run := completed.carriedOut
  constructor
  · intro kept first among second alike one other generated others same
    obtain ⟨_, own, here⟩ := kept first among
    obtain rfl := Except.ok.inj (own.symm.trans generated)
    obtain ⟨_, another, there⟩ := kept second alike
    obtain rfl := Except.ok.inj (another.symm.trans others)
    have grown := (grown_of_carryOut run).1
    rw [← grown.location_eq, ← grown.location_eq] at same
    exact Workspace.eq_of_read here there same
  · intro agree declared member
    have all_agree : Agree workspace (outputDirectory workspace request sources.config)
        (planOf workspace request sources.config clients).changes := by
      refine agree_planOf made fun one among other alike same => ?_
      obtain ⟨first, source, generated⟩ := made.exists_class among
      obtain ⟨second, another, others⟩ := made.exists_class alike
      exact agree first source second another one other generated others same
    obtain ⟨client, own, generated⟩ := made.exists_client member
    exact ⟨client, generated,
      read_of_planOf run all_agree (mem_filesOf.mpr (Or.inl ⟨client, own, rfl⟩))⟩

/-- A workspace with one file of declarations. -/
def shopOf (text : String) : Workspace where
  tree := ⟨[(["shop.json"], .file (some text))]⟩
  directory := "/"

/-- A request for the clients of that file. -/
def shopRequest : GenerateRequest where
  inputs := ["shop.json"]
  outputDirectory := none
  check := false
  config := none
  withoutAttributes := true

/-- Classes without methods in that file. -/
def shopSources (names : List String) : Sources where
  config := .standard
  files := ["shop.json"]
  classes := names.map fun name => ⟨"", [], name, [], []⟩

/-- Declarations of two classes that are written to two files. -/
def twoNames : String :=
  "\x7b\"clients\": [\x7b\"name\": \"Items\"\x7d, \x7b\"name\": \"Orders\"\x7d]\x7d"

/-- Declarations of two classes the names of which lead to one file. -/
def oneName : String :=
  "\x7b\"clients\": [\x7b\"name\": \"Items\"\x7d, \x7b\"name\": \"./Items\"\x7d]\x7d"

/-- The run over a shop with two classes of different names completes. It is the case in which both
clients are kept. -/
theorem twoNames_completes : Completes (shopOf twoNames) shopRequest
    (shopSources ["Items", "Orders"]) (planFor (shopOf twoNames) shopRequest)
    (endOf (shopOf twoNames) shopRequest) := by
  refine completes_of_isOk ⟨?_, ?_, _, List.flatten_singleton, .cons ?_ .nil⟩ ?_ ?_ <;>
    decide +kernel

/-- The run over a shop with two classes whose names are spelled differently but lead to one file
completes as well. No collision is found. -/
theorem oneName_completes : Completes (shopOf oneName) shopRequest
    (shopSources ["Items", "./Items"]) (planFor (shopOf oneName) shopRequest)
    (endOf (shopOf oneName) shopRequest) := by
  refine completes_of_isOk ⟨?_, ?_, _, List.flatten_singleton, .cons ?_ .nil⟩ ?_ ?_ <;>
    decide +kernel

/-- Both classes are on disk, as no name has a slash in it, so that different names lead to
different locations. -/
theorem items_and_orders_kept :
    Completes (shopOf twoNames) shopRequest (shopSources ["Items", "Orders"])
        (planFor (shopOf twoNames) shopRequest) (endOf (shopOf twoNames) shopRequest) ∧
      ∀ declared ∈ (shopSources ["Items", "Orders"]).classes,
        OnDisk (endOf (shopOf twoNames) shopRequest).workspace
          (planFor (shopOf twoNames) shopRequest).directory .standard declared := by
  have free : ∀ declared ∈ (shopSources ["Items", "Orders"]).classes,
      '/' ∉ declared.name.toList := by
    decide +kernel
  have distinct : ∀ first ∈ (shopSources ["Items", "Orders"]).classes,
      ∀ second ∈ (shopSources ["Items", "Orders"]).classes,
        first.name = second.name → first = second := by
    decide +kernel
  refine ⟨twoNames_completes, (clients_kept_iff twoNames_completes).mpr ?_⟩
  intro first among second alike one other generated others same
  have names := name_eq_of_location_eq generated others (free first among) (free second alike) same
  obtain rfl := distinct first among second alike names
  obtain rfl := Except.ok.inj (generated.symm.trans others)
  rfl

/-- The second class takes the file of the first one: its file has another name and the same
location, and the run comes to its end. -/
theorem items_lost :
    Completes (shopOf oneName) shopRequest (shopSources ["Items", "./Items"])
        (planFor (shopOf oneName) shopRequest) (endOf (shopOf oneName) shopRequest) ∧
      ∃ declared ∈ (shopSources ["Items", "./Items"]).classes,
        ¬ OnDisk (endOf (shopOf oneName) shopRequest).workspace
          (planFor (shopOf oneName) shopRequest).directory .standard declared := by
  have lost : (generateClient ⟨"", [], "Items", [], []⟩ .standard).toOption.all fun client =>
      (endOf (shopOf oneName) shopRequest).workspace.read
          (join (planFor (shopOf oneName) shopRequest).directory client.file.name) ≠
        .ok client.file.text := by
    decide +kernel
  refine ⟨oneName_completes, ⟨"", [], "Items", [], []⟩, List.mem_cons_self, ?_⟩
  rintro ⟨client, generated, there⟩
  rw [generated, Except.toOption, Option.all_some, decide_eq_true_iff] at lost
  exact lost there

end Shared

end Command

end TypedClients
