import TypedClients.Command.Generate.Plan
import TypedClients.Proofs.GeneratedFile.Balance
import TypedClients.Proofs.ProjectConfig

/-!
# What a plan is made from

A plan comes from the settings, from the declaration files that the inputs lead to, and from the
classes in them. Every class has a client, and no two clients have one file name. The rest of a
plan is read off these, so a plan is the same wherever they are.

`Sources` holds what was found, and `Sources.Given` and `Sources.Clients` say that it was: a run has
at most one of them, and `planOf` is the plan that it leads to. All theorems about runs go through
this account of a plan, and none unfolds the planning again.
-/

namespace TypedClients

namespace Command

/-- No client is refused for its file name when all names are different, and none of them taken. The
search for a collision keeps the names that it has seen. -/
theorem collision?_eq_none {taken : List String} {found : List Diagnostic}
    {clients : List GeneratedClient} :
    collision? taken found clients = none ↔
      (clients.map fun client => client.file.name).Nodup ∧
        ∀ client ∈ clients, client.file.name ∉ taken := by
  induction clients generalizing taken found with
  | nil => simp [collision?]
  | cons client clients inductionHypothesis =>
    rw [collision?, List.map_cons, List.nodup_cons, List.forall_mem_cons]
    by_cases present : client.file.name ∈ taken
    · simp [present]
    · have free : taken.contains client.file.name = false := by simpa using present
      simp only [free, Bool.false_eq_true, if_false, inductionHypothesis]
      constructor
      · rintro ⟨distinct, others⟩
        refine ⟨⟨fun again => ?_, distinct⟩, present, fun other member => ?_⟩
        · obtain ⟨other, member, same⟩ := List.mem_map.mp again
          exact others other member (same ▸ List.mem_cons_self)
        · exact fun own => others other member (List.mem_cons_of_mem _ own)
      · rintro ⟨⟨first, distinct⟩, -, others⟩
        refine ⟨distinct, fun other member own => ?_⟩
        rcases List.mem_cons.mp own with same | own
        · exact first (List.mem_map.mpr ⟨other, member, same⟩)
        · exact others other member own

/-- What a plan is made from. -/
structure Sources where
  config : ProjectConfig
  files : List String
  classes : List ClassDeclaration

/-- A request finds these sources in a workspace. -/
structure Sources.Given (sources : Sources) (workspace : Workspace) (request : GenerateRequest) :
    Prop where
  config : ProjectConfig.load workspace request.config = .ok sources.config
  files : Declaration.collectFiles workspace request.inputs = .ok sources.files
  classes : ∃ contents, contents.flatten = sources.classes ∧
    List.Forall₂ (fun file content => Declaration.load workspace file = .ok content)
      sources.files contents

/-- The clients of the classes, in order. -/
def Sources.Clients (sources : Sources) (clients : List GeneratedClient) : Prop :=
  List.Forall₂ (fun declared client =>
    generateClient declared sources.config.defaults = .ok client) sources.classes clients

/-- The files of clients, with that of the attribute definitions unless it is left out. -/
def filesOf (request : GenerateRequest) (defaults : Defaults) (clients : List GeneratedClient) :
    List GeneratedFile :=
  clients.map GeneratedClient.file
    ++ if request.withoutAttributes then [] else [attributeFile defaults.rootNamespace]

/-- The attribute definitions have a file, unless it is left out: their template never fails. -/
theorem attributeFiles_eq (request : GenerateRequest) (defaults : Defaults) :
    attributeFiles request defaults = .ok
      (if request.withoutAttributes then [] else [attributeFile defaults.rootNamespace]) := by
  unfold attributeFiles
  split_ifs with left_out
  · rfl
  · rw [generateAttributes_eq]
    rfl

/-- A plan of clients, set against what is on disk. -/
def planOf (workspace : Workspace) (request : GenerateRequest) (config : ProjectConfig)
    (clients : List GeneratedClient) : Plan where
  directory := outputDirectory workspace request config
  changes := (filesOf request config.defaults clients).map
    (changeOf workspace (outputDirectory workspace request config))
  diagnostics := clients.flatMap GeneratedClient.diagnostics

/-- The clients of files are those of the classes in them. -/
theorem clientsOf_eq_ok {workspace : Workspace} {defaults : Defaults} {files : List String}
    {clients : List GeneratedClient} :
    clientsOf workspace defaults files = .ok clients ↔
      ∃ contents, List.Forall₂ (fun file content =>
          Declaration.load workspace file = .ok content) files contents ∧
        List.Forall₂ (fun declared client => generateClient declared defaults = .ok client)
          contents.flatten clients := by
  simp only [clientsOf, bind_eq_ok, mapError_eq_ok, mapM_eq_ok]

/-- Clients have a plan exactly when no two of them have one file name, and it is the one that is
made from them. The template of the attribute definitions is filled in every time. -/
theorem planClients_eq_ok {workspace : Workspace} {request : GenerateRequest}
    {config : ProjectConfig} {clients : List GeneratedClient} {planned : Plan} :
    planClients workspace request config clients = .ok planned ↔
      (clients.map fun client => client.file.name).Nodup ∧
        planned = planOf workspace request config clients := by
  unfold planClients
  cases refused : collision? [] [] clients with
  | none =>
    have distinct := (collision?_eq_none.mp refused).1
    have whole : (do
        let attributes ← (attributeFiles request config.defaults).mapError
          (PlanFault.attributes · (clients.flatMap GeneratedClient.diagnostics))
        return ({
          directory := outputDirectory workspace request config
          changes := (clients.map GeneratedClient.file ++ attributes).map
            (changeOf workspace (outputDirectory workspace request config))
          diagnostics := clients.flatMap GeneratedClient.diagnostics } : Plan)) =
        .ok (planOf workspace request config clients) := by
      rw [attributeFiles_eq]
      rfl
    simp only [distinct, true_and]
    exact ⟨fun given => (Except.ok.inj (whole.symm.trans given)).symm, fun given => by
      rw [given]
      exact whole⟩
  | some fault =>
    constructor
    · intro given
      cases given
    · rintro ⟨distinct, -⟩
      rw [collision?_eq_none.mpr ⟨distinct, by simp⟩] at refused
      cases refused

/-- Whether a request is checked or carried out has no part in its plan. -/
theorem plan_check (workspace : Workspace) (request : GenerateRequest) (check : Bool) :
    plan workspace { request with check } = plan workspace request :=
  rfl

/-- There is a plan exactly when there are sources, with files among them and no two clients of one
name. -/
theorem plan_eq_ok {workspace : Workspace} {request : GenerateRequest} {planned : Plan} :
    plan workspace request = .ok planned ↔
      ∃ (sources : Sources) (clients : List GeneratedClient),
        sources.Given workspace request ∧ sources.files ≠ [] ∧ sources.Clients clients ∧
        (clients.map fun client => client.file.name).Nodup ∧
        planned = planOf workspace request sources.config clients := by
  unfold plan
  simp only [bind_eq_ok, mapError_eq_ok]
  constructor
  · rintro ⟨config, configured, files, collected, given⟩
    split_ifs at given with empty
    · obtain ⟨_, thrown, _⟩ := bind_eq_ok.mp given
      cases thrown
    · obtain ⟨clients, made, given⟩ := bind_eq_ok.mp given
      obtain ⟨contents, loaded, made⟩ := clientsOf_eq_ok.mp made
      obtain ⟨distinct, rfl⟩ := planClients_eq_ok.mp given
      have filled : files ≠ [] := by simpa using empty
      exact ⟨⟨config, files, contents.flatten⟩, clients,
        ⟨configured, collected, contents, rfl, loaded⟩, filled, made, distinct, rfl⟩
  · rintro ⟨⟨config, files, classes⟩, clients, ⟨configured, collected, contents, rfl, loaded⟩,
      filled, made, distinct, rfl⟩
    refine ⟨config, configured, files, collected, ?_⟩
    rw [if_neg (by simpa using filled)]
    exact bind_eq_ok.mpr ⟨clients, clientsOf_eq_ok.mpr ⟨contents, loaded, made⟩,
      planClients_eq_ok.mpr ⟨distinct, rfl⟩⟩

end Command

end TypedClients
