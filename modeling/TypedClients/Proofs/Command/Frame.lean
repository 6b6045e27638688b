import TypedClients.Proofs.Command.Generate
import TypedClients.Proofs.FileTree.Frame

/-!
# What a run leaves alone

At each location a run leaves what was there, or makes a directory on the way to the output
directory where nothing was, or writes a file that was out of date. This holds of runs that fail as
of those that come to their end, so it is what such a run can be told to have changed at most.

The three cases are proved for the making of directories, for a write, for a list of writes and for
a run, each from the one before. Later theorems ask only in which case a location is, and never how
the run went there.
-/

namespace TypedClients

open FilePath

namespace Workspace

variable {workspace after : Workspace} {path text : String}

/-- What is read at a path is where the path leads. -/
theorem node?_of_read (given : workspace.read path = .ok text) :
    workspace.tree.node? (workspace.location path) = some (.file (some text)) :=
  (FileTree.find_eq_ok.mp (FileTree.read_eq_ok.mp given)).2.2

/-- What is at each location after a write. -/
theorem node?_write (written : workspace.write path text = .ok after) (location : Location) :
    after.tree.node? location =
      if location = workspace.location path then some (.file (some text))
      else workspace.tree.node? location := by
  obtain ⟨tree, below, rfl⟩ := write_eq_ok written
  exact FileTree.node?_write below location

/-- Directories are made on the way of a path. -/
theorem madeAt_of_makeDirectories {fault : Option FileTree.Fault}
    (made : workspace.makeDirectories path = (after, fault)) :
    FileTree.MadeAt (OnWay (workspace.absolute path)) workspace.tree after.tree := by
  obtain ⟨rfl, -⟩ := Prod.mk.inj made
  exact FileTree.madeAt_of_makeDirectories workspace.tree (workspace.absolute path)

/-- Paths lead where they led before directories were made. -/
theorem location_of_makeDirectories {fault : Option FileTree.Fault}
    (made : workspace.makeDirectories path = (after, fault)) (other : String) :
    after.location other = workspace.location other := by
  obtain ⟨rfl, -⟩ := Prod.mk.inj made
  rfl

end Workspace

namespace Command

variable {workspace : Workspace} {planned : Plan} {request : GenerateRequest}

/-- What is at a location after files were written, up to the first that cannot be: what was there,
or the text of a change that was out of date and leads there. -/
theorem node?_writeChanges (directory : String) (progress : Progress) (changes : List FileChange)
    (location : Location) :
    (writeChanges directory progress changes).1.workspace.tree.node? location =
        progress.workspace.tree.node? location ∨
      ∃ change ∈ changes, change.isStale = true ∧
        progress.workspace.location (change.target directory) = location ∧
        (writeChanges directory progress changes).1.workspace.tree.node? location =
          some (.file (some change.text)) := by
  induction changes generalizing progress with
  | nil => exact Or.inl rfl
  | cons change changes inductionHypothesis =>
    rw [writeChanges_cons]
    cases stale : change.isStale with
    | false =>
      rw [if_neg Bool.false_ne_true]
      refine (inductionHypothesis _).imp_right ?_
      rintro ⟨other, member, rest⟩
      exact ⟨other, List.mem_cons_of_mem _ member, rest⟩
    | true =>
      rw [if_pos rfl]
      cases written : progress.workspace.write (change.target directory) change.text with
      | error fault => exact Or.inl rfl
      | ok workspace =>
        rcases inductionHypothesis
            { progress with workspace, written := progress.written + 1 } with same | ⟨other, rest⟩
        · rw [Workspace.node?_write written] at same
          split_ifs at same with own
          · exact Or.inr ⟨change, List.mem_cons_self, stale, own.symm, same⟩
          · exact Or.inl same
        · obtain ⟨member, also, place, file⟩ := rest
          rw [Workspace.location_of_write written] at place
          exact Or.inr ⟨other, List.mem_cons_of_mem _ member, also, place, file⟩

/-- What is at a location after a plan was carried out, up to the first fault: the directories are
made before any file is written. -/
theorem node?_carryOut (workspace : Workspace) (planned : Plan) (location : Location) :
    (carryOut workspace planned).1.workspace.tree.node? location =
        workspace.tree.node? location ∨
      (workspace.tree.node? location = none ∧
        (carryOut workspace planned).1.workspace.tree.node? location = some .directory ∧
        OnWay (workspace.absolute planned.directory) location) ∨
      ∃ change ∈ planned.changes, change.isStale = true ∧
        workspace.location (change.target planned.directory) = location ∧
        (carryOut workspace planned).1.workspace.tree.node? location =
          some (.file (some change.text)) := by
  rcases carryOut_cases workspace planned with ⟨after, fault, made, stopped⟩ | ⟨after, made, run⟩
  · rw [stopped]
    exact (Workspace.madeAt_of_makeDirectories made location).imp_right Or.inl
  · rw [run]
    rcases node?_writeChanges planned.directory ⟨after, 0, 0⟩ planned.changes location with
      same | ⟨change, member, stale, place, file⟩
    · rw [same]
      exact (Workspace.madeAt_of_makeDirectories made location).imp_right Or.inl
    · have led : workspace.location (change.target planned.directory) = location := by
        rw [← Workspace.location_of_makeDirectories made]
        exact place
      exact Or.inr (Or.inr ⟨change, member, stale, led, file⟩)

/-- The end of a run changes nothing. -/
theorem concluded_workspace (colors : Bool) (workspace : Workspace) (planned : Plan)
    (output : String) : (concluded colors workspace planned output).workspace = workspace := by
  unfold concluded
  dsimp only
  split_ifs <;> rfl

/-- A check changes nothing. -/
theorem checkPlan_workspace (colors : Bool) (workspace : Workspace) (planned : Plan) :
    (checkPlan colors workspace planned).workspace = workspace := by
  unfold checkPlan
  dsimp only
  split_ifs
  · exact concluded_workspace _ _ _ _
  · rfl

/-- A run leaves the workspace in which its plan ended, whether or not there was a fault. -/
theorem writePlan_workspace (colors : Bool) (workspace : Workspace) (planned : Plan) :
    (writePlan colors workspace planned).workspace =
      (carryOut workspace planned).1.workspace := by
  delta writePlan
  cases carryOut workspace planned with
  | mk last fault =>
    cases fault with
    | some fault => rfl
    | none => exact concluded_workspace _ _ _ _

/-- A run that is no check leaves the workspace in which its plan ended. -/
theorem run_workspace_of_plan (planned_eq : plan workspace request = .ok planned)
    (writes : request.check = false) (colors : Bool) :
    (request.run colors workspace).workspace = (carryOut workspace planned).1.workspace := by
  unfold GenerateRequest.run
  rw [planned_eq]
  dsimp only
  rw [if_neg (by simp [writes])]
  exact writePlan_workspace colors workspace planned

/-- A run without a plan fails and changes nothing. -/
theorem run_of_refused {fault : PlanFault} (refused : plan workspace request = .error fault)
    (colors : Bool) : (request.run colors workspace).exitCode = 1 ∧
      (request.run colors workspace).workspace = workspace := by
  unfold GenerateRequest.run
  rw [refused]
  exact ⟨rfl, rfl⟩

/-- A run changes nothing unless there is a plan, which it carries out. A check of a plan is among
the runs that change nothing. -/
theorem run_workspace_cases (colors : Bool) (workspace : Workspace) (request : GenerateRequest) :
    (request.run colors workspace).workspace = workspace ∨
      ∃ planned, plan workspace request = .ok planned ∧
        (request.run colors workspace).workspace =
          (carryOut workspace planned).1.workspace := by
  cases given : plan workspace request with
  | error fault => exact Or.inl (run_of_refused given colors).2
  | ok planned =>
    cases writes : request.check with
    | false => exact Or.inr ⟨planned, rfl, run_workspace_of_plan given writes colors⟩
    | true =>
      unfold GenerateRequest.run
      rw [given]
      dsimp only
      rw [if_pos writes]
      exact Or.inl (checkPlan_workspace colors workspace planned)

end Command

end TypedClients
