import TypedClients.Proofs.CSharp.Identifier
import TypedClients.Proofs.Command.Generate
import TypedClients.Proofs.Command.Sources

/-!
# Generation converges

After a run that came to its end the same request finds the same sources and makes the same files.
They are all on disk, so that nothing is out of date. A second run writes nothing and leaves the
workspace as it is, and a check finds no fault.

The sources of the first run are found again in the workspace that it leaves, as none of them was
written to. So the second run has the same plan, in which every change has become an unchanged file.
-/

namespace TypedClients.Command

open FilePath

variable {workspace : Workspace} {request : GenerateRequest} {sources : Sources} {planned : Plan}
  {last : Progress} {clients : List GeneratedClient}

/-- Clients of classes without slashes in their names agree when they have different names. -/
theorem agree_of_slash_free (made : sources.Clients clients)
    (distinct : (clients.map fun client => client.file.name).Nodup)
    (free : ∀ declared ∈ sources.classes, '/' ∉ declared.name.toList) :
    Agree workspace (outputDirectory workspace request sources.config)
      (planOf workspace request sources.config clients).changes := by
  intro first among second alike same
  obtain ⟨file, own, rfl⟩ := List.mem_map.mp among
  obtain ⟨other, also, rfl⟩ := List.mem_map.mp alike
  rw [file_eq_of_location_eq made distinct free own also same]

end TypedClients.Command
