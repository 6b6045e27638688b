import TypedClients.Command.Generate.Plan
import TypedClients.Command.Outcome

/-!
# Generating files

A plan is either checked or carried out. A check reports every file that is out of date and
writes nothing. Otherwise the output directory is made and the files that are out of date are
written in order, up to the first that cannot be. Diagnostics fail a run at its end, and only
after everything else has been done.
-/

namespace TypedClients

namespace Command

/-- The line of a diagnostic. -/
def diagnosticLine (colors : Bool) (diagnostic : Diagnostic) : String :=
  Style.red.inBold.paint colors "error" ++ ": " ++ diagnostic.message ++ "\n"

/-- The lines of diagnostics. -/
def diagnosticLines (colors : Bool) (diagnostics : List Diagnostic) : String :=
  String.join (diagnostics.map (diagnosticLine colors))

/-- A mark of success. -/
def tick (colors : Bool) : String :=
  Style.green.paint colors "✓"

/-- What was done with the files of a plan. -/
structure Progress where
  workspace : Workspace
  written : Nat
  unchanged : Nat
deriving Repr, DecidableEq

/-- What a run did, in numbers. -/
structure Summary where
  written : Nat
  /-- Files that were on disk with their texts before the run. -/
  unchanged : Nat
  /-- Files that are out of date after the run; only a check leaves any. -/
  stale : Nat
  diagnostics : Nat
deriving Repr, DecidableEq

/-- What a check of a plan counts. -/
def Plan.checkSummary (plan : Plan) : Summary :=
  let stale := (plan.changes.filter FileChange.isStale).length
  { written := 0
    unchanged := plan.changes.length - stale
    stale
    diagnostics := plan.diagnostics.length }

/-- What is counted while a plan is carried out. -/
def Plan.writeSummary (plan : Plan) (progress : Progress) : Summary where
  written := progress.written
  unchanged := progress.unchanged
  stale := 0
  diagnostics := plan.diagnostics.length

/-- Why a plan was not carried out to its end. -/
inductive WriteFault where
  | directory (path : String) (fault : FileTree.Fault)
  | file (path : String) (fault : FileTree.Fault)
deriving Repr, DecidableEq

/-- The wording of a fault. -/
def WriteFault.message : WriteFault → String
  | .directory path fault => "Failed to create " ++ path ++ ": " ++ fault.message
  | .file path fault => "Failed to write " ++ path ++ ": " ++ fault.message

/-- Write the files that are out of date, in order, up to the first that cannot be written. -/
def writeChanges (directory : String) (progress : Progress) :
    List FileChange → Progress × Option WriteFault
  | [] => (progress, none)
  | change :: changes =>
    if change.isStale then
      let target := change.target directory
      match progress.workspace.write target change.text with
      | .error fault => (progress, some (.file target fault))
      | .ok workspace =>
        writeChanges directory { progress with workspace, written := progress.written + 1 } changes
    else writeChanges directory { progress with unchanged := progress.unchanged + 1 } changes

/-- Carry out a plan. -/
def carryOut (workspace : Workspace) (plan : Plan) : Progress × Option WriteFault :=
  match workspace.makeDirectories plan.directory with
  | (workspace, some fault) => (⟨workspace, 0, 0⟩, some (.directory plan.directory fault))
  | (workspace, none) => writeChanges plan.directory ⟨workspace, 0, 0⟩ plan.changes

/-- The end of a run that did all it had to do: diagnostics make it fail. -/
def concluded (colors : Bool) (workspace : Workspace) (plan : Plan) (output : String) : Outcome :=
  let lines := diagnosticLines colors plan.diagnostics
  if plan.diagnostics.isEmpty then ⟨0, output, lines, workspace⟩
  else ⟨1, output, lines ++ toString plan.diagnostics.length ++ " error diagnostic(s) reported\n",
    workspace⟩

/-- Check a plan. -/
def checkPlan (colors : Bool) (workspace : Workspace) (plan : Plan) : Outcome :=
  let summary := plan.checkSummary
  let reports := String.join
    ((plan.changes.filter FileChange.isStale).filterMap fun change => change.report? colors)
  if summary.stale = 0 then
    concluded colors workspace plan
      (reports ++ tick colors ++ " generated files are up to date\n")
  else ⟨1, reports, diagnosticLines colors plan.diagnostics ++ toString summary.stale
    ++ " generated file(s) out of date; run without --check to update\n", workspace⟩

/-- Carry out a plan and report what was done. -/
def writePlan (colors : Bool) (workspace : Workspace) (plan : Plan) : Outcome :=
  match carryOut workspace plan with
  | (progress, some fault) =>
    ⟨1, "", diagnosticLines colors plan.diagnostics ++ fault.message ++ "\n", progress.workspace⟩
  | (progress, none) =>
    let summary := plan.writeSummary progress
    concluded colors progress.workspace plan
      (tick colors ++ " wrote " ++ toString summary.written ++ " file(s), "
        ++ toString summary.unchanged ++ " unchanged\n")

end Command

/-- Generate the files of a request, or check them. -/
def GenerateRequest.run (colors : Bool) (workspace : Workspace) (request : GenerateRequest) :
    Command.Outcome :=
  match Command.plan workspace request with
  | .error fault =>
    ⟨1, "", Command.diagnosticLines colors fault.diagnostics ++ fault.message ++ "\n", workspace⟩
  | .ok plan =>
    if request.check then Command.checkPlan colors workspace plan
    else Command.writePlan colors workspace plan

end TypedClients
