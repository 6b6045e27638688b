import TypedClients.Proofs.Command.Targets

/-!
# Sources stay

A run writes generated files only. So a later run finds the same configuration, or again none, and
the same declaration files in the same directories, and reads what the first one read, as long as
no file that was read lies where a generated file was written.

The delicate part is what was not found. A path that led nowhere may lead somewhere once directories
have been made on the way to it, and a run makes directories. The usual configuration is looked for
in the directory that the program runs in, which is there already, so that a run can make no way to
it; and an input that leads nowhere fails the run that looks for it.
-/

namespace TypedClients

open FilePath

variable {targets : Location → Prop} {workspace after : Workspace}

namespace ProjectConfig

variable {path : String} {config : ProjectConfig}

end ProjectConfig

namespace Declaration

variable {path : String} {files inputs : List String} {classes : List ClassDeclaration}

/-- The files of all inputs are collected when those of each input are. They are the files of the
inputs one after the other. -/
theorem collectFiles_eq_ok : collectFiles workspace inputs = .ok files ↔
    ∃ found, List.Forall₂ (fun input own => filesOfInput workspace input = .ok own) inputs found ∧
      found.flatten = files := by
  simp only [collectFiles, map_eq_ok, mapM_eq_ok]

end Declaration

namespace Command

variable {request : GenerateRequest} {sources : Sources}

end Command

end TypedClients
