import TypedClients.Proofs.Command.Frame
import TypedClients.Proofs.Extraction

/-!
# What a check says

A check changes nothing. It finds no fault exactly when everything that a run needs is there, no
method has too many parameters for its content, and every file is on disk with its text. What it
counts as out of date is what a run writes, and the rest is what a run leaves as it is.

A plan is looked at once, by what it holds, and both modes are compared on it: the check counts the
stale changes, and the run writes a change exactly when it is stale. That a write makes no other
change stale or up to date is what the comparison rests on.
-/

namespace TypedClients

open FilePath

namespace Extraction

/-- Nothing is reported of a class when no method that is generated has two parameters or more that
carry content. -/
theorem diagnostics_eq_nil_iff {declared : ClassDeclaration} {defaults : Defaults} :
    diagnostics (extractClient declared defaults) = [] ↔
      ∀ method ∈ (extractClient declared defaults).methods, method.isEligible = true →
        method.parameters.countP Parameter.IsContent ≤ 1 := by
  rw [diagnostics_eq, List.map_eq_nil_iff, List.filter_eq_nil_iff]
  refine forall₂_congr fun method member => ?_
  obtain ⟨source, -, rfl⟩ := List.mem_map.mp member
  rw [contentSuppressed_iff, not_and]
  exact forall_congr' fun _ => by omega

end Extraction

namespace Command

variable {workspace : Workspace} {request : GenerateRequest} {sources : Sources} {planned : Plan}
  {last progress : Progress} {directory : String} {changes : List FileChange}
  {clients : List GeneratedClient}

/-! ## Counts -/

/-- Every file is either written or left as it is, and counted once. So the counts of a run that
comes to its end add up to its files. -/
theorem counts_of_writeChanges (run : writeChanges directory progress changes = (last, none)) :
    last.written = progress.written + changes.countP FileChange.isStale ∧
      last.written + last.unchanged =
        progress.written + progress.unchanged + changes.length := by
  induction changes generalizing progress with
  | nil =>
    obtain rfl := writeChanges_nil run
    exact ⟨rfl, rfl⟩
  | cons change changes inductionHypothesis =>
    rw [List.length_cons]
    rcases writeChanges_cons_cases run with ⟨fresh, rest⟩ | ⟨workspace, stale, -, rest⟩
    · have counted := inductionHypothesis rest
      dsimp only at counted
      rw [List.countP_cons_of_neg (by simp [fresh])]
      omega
    · have counted := inductionHypothesis rest
      dsimp only at counted
      rw [List.countP_cons_of_pos stale]
      omega

/-- A run that comes to its end counts what a check of its plan counts: it has written what the
check finds out of date, and left the rest. -/
theorem summary_of_carryOut (run : carryOut workspace planned = (last, none)) :
    (planned.writeSummary last).written = planned.checkSummary.stale ∧
      (planned.writeSummary last).unchanged = planned.checkSummary.unchanged ∧
      (planned.writeSummary last).diagnostics = planned.checkSummary.diagnostics ∧
      (planned.writeSummary last).written + (planned.writeSummary last).unchanged =
        planned.changes.length := by
  obtain ⟨after, -, run⟩ := carryOut_eq_ok run
  have counted := counts_of_writeChanges run
  dsimp only at counted
  rw [List.countP_eq_length_filter] at counted
  have written : last.written = (planned.changes.filter FileChange.isStale).length := by omega
  have all : last.written + last.unchanged = planned.changes.length := by omega
  have unchanged : last.unchanged =
      planned.changes.length - (planned.changes.filter FileChange.isStale).length := by omega
  exact ⟨written, unchanged, rfl, all⟩

/-! ## Checks -/

/-- A run that did all it had to do succeeds when nothing is reported. -/
theorem concluded_exitCode (colors : Bool) (workspace : Workspace) (planned : Plan)
    (output : String) :
    (concluded colors workspace planned output).exitCode = 0 ↔ planned.diagnostics = [] := by
  unfold concluded
  dsimp only
  split_ifs with empty
  · simpa using empty
  · simpa using empty

/-- A check succeeds when nothing is out of date and nothing is reported. Either of the two makes it
fail by itself. -/
theorem checkPlan_exitCode (colors : Bool) (workspace : Workspace) (planned : Plan) :
    (checkPlan colors workspace planned).exitCode = 0 ↔
      (∀ change ∈ planned.changes, change.isStale = false) ∧ planned.diagnostics = [] := by
  have fresh : planned.checkSummary.stale = 0 ↔
      ∀ change ∈ planned.changes, change.isStale = false := by
    simp [Plan.checkSummary]
  unfold checkPlan
  dsimp only
  split_ifs with none
  · rw [concluded_exitCode, ← fresh]
    exact (and_iff_right none).symm
  · rw [← fresh]
    simp [none]

/-! ## Plans -/

/-- The classes of any sources have clients, and these are what they are. -/
theorem Sources.exists_clients (sources : Sources) : ∃ clients, sources.Clients clients := by
  have each (declared : ClassDeclaration) :
      ∃ client, generateClient declared sources.config.defaults = .ok client := by
    obtain ⟨text, -, generated⟩ := exists_generateClient declared sources.config.defaults
    exact ⟨_, generated⟩
  choose client generated using each
  exact ⟨sources.classes.map client, List.forall₂_map_right_iff.mpr (List.forall₂_same.mpr
    fun declared _ => generated declared)⟩

/-- The declaration files of a run determine its clients, since a file is read in one way only. So
two accounts of what a run found speak of the same clients. -/
theorem Sources.Clients.unique {others : List GeneratedClient} (made : sources.Clients clients)
    (again : sources.Clients others) : clients = others :=
  Except.ok.inj ((mapM_eq_ok.mpr made).symm.trans (mapM_eq_ok.mpr again))

/-- Nothing is reported of the clients when nothing is reported of their classes, as each class has
its client. -/
theorem Sources.Clients.diagnostics_eq_nil_iff (made : sources.Clients clients) :
    clients.flatMap GeneratedClient.diagnostics = [] ↔ ∀ declared ∈ sources.classes,
      Extraction.diagnostics
        (Extraction.extractClient declared sources.config.defaults) = [] := by
  have own {declared : ClassDeclaration} {client : GeneratedClient}
      (generated : generateClient declared sources.config.defaults = .ok client) :
      client.diagnostics =
        Extraction.diagnostics (Extraction.extractClient declared sources.config.defaults) := by
    obtain ⟨text, -, again⟩ := exists_generateClient declared sources.config.defaults
    obtain rfl := Except.ok.inj (generated.symm.trans again)
    rfl
  rw [List.flatMap_eq_nil_iff]
  constructor
  · intro none declared member
    obtain ⟨client, among, generated⟩ := made.exists_client member
    rw [← own generated, none client among]
  · intro none client among
    obtain ⟨declared, member, generated⟩ := made.exists_class among
    rw [own generated, none declared member]

/-- The number of files of a plan: one for each class, and that of the attribute definitions. -/
theorem Sources.Clients.length_filesOf (made : sources.Clients clients)
    (request : GenerateRequest) :
    (filesOf request sources.config.defaults clients).length =
      sources.classes.length + if request.withoutAttributes then 0 else 1 := by
  rw [filesOf, List.length_append, List.length_map, ← made.length_eq]
  cases request.withoutAttributes <;> rfl

/-- Everything that a check asks for, of a request in a workspace. -/
structure UpToDate (workspace : Workspace) (request : GenerateRequest) (sources : Sources) :
    Prop where
  /-- The settings and all declarations can be read. -/
  given : sources.Given workspace request
  filled : sources.files ≠ []
  /-- No method that is generated has two parameters or more that carry content. -/
  content : ∀ declared ∈ sources.classes,
    ∀ method ∈ (Extraction.extractClient declared sources.config.defaults).methods,
      method.isEligible = true → method.parameters.countP Parameter.IsContent ≤ 1
  /-- The files that are generated have different names. -/
  distinct : ∀ clients, sources.Clients clients →
    ((filesOf request sources.config.defaults clients).map GeneratedFile.name).Nodup
  /-- Each of them can be read in its place, with its text. -/
  kept : ∀ clients, sources.Clients clients →
    ∀ file ∈ filesOf request sources.config.defaults clients,
      workspace.read (join (outputDirectory workspace request sources.config) file.name) =
        .ok file.text

/-- A plan has nothing to write and nothing to report exactly when everything is up to date, which
is stated of the sources, the disk and the classes and mentions no plan. -/
theorem exists_upToDate_iff (workspace : Workspace) (request : GenerateRequest) :
    (∃ sources, UpToDate workspace request sources) ↔
      ∃ planned, plan workspace request = .ok planned ∧
        (∀ change ∈ planned.changes, change.isStale = false) ∧ planned.diagnostics = [] := by
  constructor
  · rintro ⟨sources, given, filled, content, distinct, kept⟩
    obtain ⟨clients, made⟩ := sources.exists_clients
    have names := (made.nodup_filesOf request).mp (distinct clients made)
    refine ⟨planOf workspace request sources.config clients,
      plan_eq_ok.mpr ⟨sources, clients, given, filled, made, names, rfl⟩, ?_, ?_⟩
    · intro change member
      obtain ⟨file, own, rfl⟩ := List.mem_map.mp member
      exact isStale_changeOf.mpr (kept clients made file own)
    · exact made.diagnostics_eq_nil_iff.mpr fun declared member =>
        Extraction.diagnostics_eq_nil_iff.mpr (content declared member)
  · rintro ⟨planned, planned_eq, fresh, silent⟩
    obtain ⟨sources, clients, given, filled, made, names, rfl⟩ := plan_eq_ok.mp planned_eq
    refine ⟨sources, given, filled, ?_, ?_, ?_⟩
    · intro declared member
      exact Extraction.diagnostics_eq_nil_iff.mp
        (made.diagnostics_eq_nil_iff.mp silent declared member)
    · intro others again
      obtain rfl := made.unique again
      exact (made.nodup_filesOf request).mpr names
    · intro others again file own
      obtain rfl := made.unique again
      exact isStale_changeOf.mp (fresh _ (List.mem_map_of_mem own))

/-- A check changes nothing, and succeeds exactly when there is a plan with nothing to write and
nothing to report. -/
theorem run_check (colors : Bool) (workspace : Workspace) (request : GenerateRequest) :
    (GenerateRequest.run colors workspace { request with check := true }).workspace = workspace ∧
      ((GenerateRequest.run colors workspace { request with check := true }).exitCode = 0 ↔
        ∃ planned, plan workspace request = .ok planned ∧
          (∀ change ∈ planned.changes, change.isStale = false) ∧ planned.diagnostics = []) := by
  unfold GenerateRequest.run
  rw [plan_check]
  cases given : plan workspace request with
  | error fault => exact ⟨rfl, by simp⟩
  | ok planned =>
    dsimp only
    rw [if_pos rfl]
    refine ⟨checkPlan_workspace colors workspace planned, ?_⟩
    rw [checkPlan_exitCode]
    simp

/-- A check tells the truth. It changes nothing, and succeeds exactly when everything is up to
date. A run of the same request that comes to its end writes as many files as its check counts as
out of date, leaves as many as they are and reports as much, and these files are all there are. -/
theorem check_tells_truth (colors : Bool) (workspace : Workspace) (request : GenerateRequest) :
    (GenerateRequest.run colors workspace { request with check := true }).workspace = workspace ∧
      ((GenerateRequest.run colors workspace { request with check := true }).exitCode = 0 ↔
        ∃ sources, UpToDate workspace request sources) ∧
      ∀ checked planned last, plan workspace { request with check := true } = .ok checked →
        plan workspace { request with check := false } = .ok planned →
        carryOut workspace planned = (last, none) →
        (planned.writeSummary last).written = checked.checkSummary.stale ∧
          (planned.writeSummary last).unchanged = checked.checkSummary.unchanged ∧
          (planned.writeSummary last).diagnostics = checked.checkSummary.diagnostics ∧
          ∃ sources : Sources, sources.Given workspace request ∧
            (planned.writeSummary last).written + (planned.writeSummary last).unchanged =
              sources.classes.length + if request.withoutAttributes then 0 else 1 := by
  obtain ⟨still, succeeds⟩ := run_check colors workspace request
  refine ⟨still, succeeds.trans (exists_upToDate_iff workspace request).symm, ?_⟩
  intro checked planned last checked_eq planned_eq run
  rw [plan_check] at checked_eq planned_eq
  obtain rfl := Except.ok.inj (checked_eq.symm.trans planned_eq)
  obtain ⟨written, unchanged, reported, all⟩ := summary_of_carryOut run
  obtain ⟨sources, clients, given, -, made, -, rfl⟩ := plan_eq_ok.mp planned_eq
  refine ⟨written, unchanged, reported, sources, given, ?_⟩
  rw [all, planOf, List.length_map, made.length_filesOf]

/-- A workspace in which the file of the first of two classes is there with its text. -/
def halfDone : Workspace where
  tree := ⟨[(["shop.json"], .file (some twoNames)), (["Generated"], .directory),
    (["Generated", "Items_Generated.g.cs"], .file
      ((generateClient ⟨"", [], "Items", [], []⟩ .standard).toOption.map (·.file.text)))]⟩
  directory := "/"

/-- A check counts one file as out of date, and a run writes one file and leaves the other. The
workspace is one in which an earlier run stopped half way. -/
theorem halfDone_counted :
    Completes halfDone shopRequest (shopSources ["Items", "Orders"])
        (planFor halfDone shopRequest) (endOf halfDone shopRequest) ∧
      ((planFor halfDone shopRequest).writeSummary (endOf halfDone shopRequest)).written = 1 ∧
      ((planFor halfDone shopRequest).writeSummary (endOf halfDone shopRequest)).unchanged = 1 := by
  have given : (shopSources ["Items", "Orders"]).Given halfDone shopRequest := by
    refine ⟨?_, ?_, _, List.flatten_singleton, .cons ?_ .nil⟩ <;> decide +kernel
  have evaluated : (plan halfDone shopRequest).isOk = true ∧
      (carryOut halfDone (planFor halfDone shopRequest)).2 = none ∧
      (planFor halfDone shopRequest).checkSummary = ⟨0, 1, 1, 0⟩ := by
    decide +kernel
  obtain ⟨accepted, carriedOut, counted⟩ := evaluated
  have completed := completes_of_isOk given accepted carriedOut
  have checked := (plan_check halfDone shopRequest true).trans completed.planned_eq
  have planned := (plan_check halfDone shopRequest false).trans completed.planned_eq
  obtain ⟨-, -, counts⟩ := check_tells_truth false halfDone shopRequest
  obtain ⟨written, unchanged, -⟩ := counts _ _ _ checked planned completed.carriedOut
  exact ⟨completed, written.trans (congrArg Summary.stale counted),
    unchanged.trans (congrArg Summary.unchanged counted)⟩

end Command

end TypedClients
