import Mathlib.Data.List.Nodup
import TypedClients.Proofs.Command.Plan
import TypedClients.Proofs.Workspace

/-!
# Where generated files go

The name of a generated file ends in `.g.cs`, whatever the class is called. So no generated file
lies where a declaration file is looked for or a configuration, and that of a client does not lie
where the attribute definitions are. A name without slashes lies right in the output directory.

The name of a generated file gives the name of its class back. So two files at one location have
class names that lead there both, which for names without slashes means that they are the same name.
-/

namespace TypedClients

open FilePath

namespace Command

/-- The ending of the file of a client. -/
def clientEnding : String := "_Generated.g.cs"

/-- A file of a client is named for the class. -/
theorem name_of_generateClient {declared : ClassDeclaration} {defaults : Defaults}
    {client : GeneratedClient} (generated : generateClient declared defaults = .ok client) :
    client.file.name = declared.name ++ clientEnding := by
  obtain ⟨text, _, again⟩ := exists_generateClient declared defaults
  obtain rfl := Except.ok.inj (generated.symm.trans again)
  rfl

/-- The name of such a file leads right below its directory, when there is no slash in the name of
the class. -/
theorem location_of_clientName {name : String} (free : '/' ∉ name.toList) (workspace : Workspace)
    (directory : String) : workspace.location (join directory (name ++ clientEnding)) =
      workspace.location directory ++ [name ++ clientEnding] := by
  have ending_free : '/' ∉ clientEnding.toList := by decide
  have ending_long : 2 < clientEnding.length := by decide
  refine workspace.location_of_name ?_ ?_ directory
  · rw [String.toList_append, List.mem_append]
    exact not_or.mpr ⟨free, ending_free⟩
  · rw [String.length_append]
    omega

/-- So the file lies there. -/
theorem location_of_generateClient {declared : ClassDeclaration} {defaults : Defaults}
    {client : GeneratedClient} (generated : generateClient declared defaults = .ok client)
    (free : '/' ∉ declared.name.toList) (workspace : Workspace) (directory : String) :
    workspace.location (join directory client.file.name) =
      workspace.location directory ++ [declared.name ++ clientEnding] := by
  rw [name_of_generateClient generated]
  exact location_of_clientName free workspace directory

/-- Without slashes in their names, only classes of one name have files at one location, as the name
of a file is the last one on the way to it. -/
theorem name_eq_of_location_eq {first second : ClassDeclaration} {defaults : Defaults}
    {one other : GeneratedClient} {workspace : Workspace} {directory : String}
    (generated : generateClient first defaults = .ok one)
    (others : generateClient second defaults = .ok other)
    (free : '/' ∉ first.name.toList) (also : '/' ∉ second.name.toList)
    (same : workspace.location (join directory one.file.name) =
      workspace.location (join directory other.file.name)) : first.name = second.name := by
  rw [location_of_generateClient generated free, location_of_generateClient others also] at same
  have names := List.singleton_inj.mp (List.append_cancel_left same)
  exact (String.append_left_inj clientEnding).mp names

variable {sources : Sources} {request : GenerateRequest} {clients : List GeneratedClient}
  {file : GeneratedFile}

/-- The files of a plan are those of its clients, and that of the attribute definitions. -/
theorem mem_filesOf {defaults : Defaults} : file ∈ filesOf request defaults clients ↔
    (∃ client ∈ clients, client.file = file) ∨
      request.withoutAttributes = false ∧ file = attributeFile defaults.rootNamespace := by
  unfold filesOf
  cases request.withoutAttributes <;> simp

/-- Every client is that of a class. -/
theorem Sources.Clients.exists_class (made : sources.Clients clients) {client : GeneratedClient}
    (member : client ∈ clients) : ∃ declared ∈ sources.classes,
      generateClient declared sources.config.defaults = .ok client := by
  obtain ⟨index, inside, rfl⟩ := List.getElem_of_mem member
  obtain ⟨same, each⟩ := List.forall₂_iff_get.mp made
  exact ⟨sources.classes[index], List.getElem_mem _, each index (same ▸ inside) inside⟩

/-- Every class has a client. -/
theorem Sources.Clients.exists_client (made : sources.Clients clients)
    {declared : ClassDeclaration} (member : declared ∈ sources.classes) :
    ∃ client ∈ clients, generateClient declared sources.config.defaults = .ok client := by
  obtain ⟨index, inside, rfl⟩ := List.getElem_of_mem member
  obtain ⟨same, each⟩ := List.forall₂_iff_get.mp made
  exact ⟨clients[index], List.getElem_mem _, each index inside (same ▸ inside)⟩

/-- The file of the attribute definitions lies right below its directory. -/
theorem location_of_attributeFile (workspace : Workspace) (directory scope : String) :
    workspace.location (join directory (attributeFile scope).name) =
      workspace.location directory ++ [AttributeDefinitions.fileName] :=
  workspace.location_of_name (show '/' ∉ AttributeDefinitions.fileName.toList by decide)
    (show 2 < AttributeDefinitions.fileName.length by decide) directory

/-- The file of a client does not lie where the attribute definitions are, even if there are slashes
in its name: the last name on the way to it has the ending of a client. -/
theorem location_ne_attributes (workspace : Workspace) (directory : String)
    (made : sources.Clients clients) {client : GeneratedClient} (member : client ∈ clients)
    (scope : String) :
    workspace.location (join directory client.file.name) ≠
      workspace.location (join directory (attributeFile scope).name) := by
  obtain ⟨declared, -, generated⟩ := made.exists_class member
  obtain ⟨front, name, own⟩ := workspace.exists_location_ending
    (show '/' ∉ clientEnding.toList by decide) (by decide) directory declared.name
  rw [name_of_generateClient generated, own, location_of_attributeFile]
  intro same
  have last := List.append_inj_right' same rfl
  have lengths := congrArg String.length (List.singleton_inj.mp last)
  rw [String.length_append] at lengths
  have short : AttributeDefinitions.fileName.length < clientEnding.length := by decide
  omega

/-- The files of a plan have different names when those of its clients do. The attribute definitions
are called like no client: their name is shorter than the ending of one. -/
theorem Sources.Clients.nodup_filesOf (made : sources.Clients clients) (request : GenerateRequest) :
    ((filesOf request sources.config.defaults clients).map GeneratedFile.name).Nodup ↔
      (clients.map fun client => client.file.name).Nodup := by
  have other : AttributeDefinitions.fileName ∉ clients.map fun client => client.file.name := by
    intro member
    obtain ⟨client, among, same⟩ := List.mem_map.mp member
    obtain ⟨declared, -, generated⟩ := made.exists_class among
    rw [name_of_generateClient generated] at same
    have ends := congrArg String.length same
    rw [String.length_append] at ends
    have short : AttributeDefinitions.fileName.length < clientEnding.length := by decide
    omega
  unfold filesOf
  cases request.withoutAttributes with
  | true => simp [Function.comp_def]
  | false =>
    rw [if_neg Bool.false_ne_true, List.map_append, List.map_map, List.map_singleton,
      List.nodup_append]
    refine ⟨fun distinct => distinct.1, fun distinct => ⟨distinct, by simp, ?_⟩⟩
    rintro name member _ own rfl
    rw [List.mem_singleton.mp own] at member
    exact other member

/-- The files of a plan lie right below their directory, when there are no slashes in the names of
the classes. -/
theorem location_of_mem_filesOf (made : sources.Clients clients)
    (free : ∀ declared ∈ sources.classes, '/' ∉ declared.name.toList)
    (member : file ∈ filesOf request sources.config.defaults clients) (workspace : Workspace)
    (directory : String) :
    workspace.location (join directory file.name) =
      workspace.location directory ++ [file.name] := by
  rcases mem_filesOf.mp member with ⟨client, own, rfl⟩ | ⟨-, rfl⟩
  · obtain ⟨declared, among, generated⟩ := made.exists_class own
    rw [location_of_generateClient generated (free declared among),
      name_of_generateClient generated]
  · exact location_of_attributeFile workspace directory _

/-- Then files with different names lie at different locations, the attribute definitions among
them. -/
theorem file_eq_of_location_eq {other : GeneratedFile} {workspace : Workspace} {directory : String}
    (made : sources.Clients clients)
    (distinct : (clients.map fun client => client.file.name).Nodup)
    (free : ∀ declared ∈ sources.classes, '/' ∉ declared.name.toList)
    (member : file ∈ filesOf request sources.config.defaults clients)
    (also : other ∈ filesOf request sources.config.defaults clients)
    (same : workspace.location (join directory file.name) =
      workspace.location (join directory other.name)) : file = other := by
  rw [location_of_mem_filesOf made free member, location_of_mem_filesOf made free also] at same
  have names := List.singleton_inj.mp (List.append_cancel_left same)
  exact List.inj_on_of_nodup_map ((made.nodup_filesOf request).mpr distinct) member also names

end Command

end TypedClients
