/-!
# Commands

What a user can ask for: generated files, a look at the clients of a declaration file, or the
attribute definitions.

What a request leaves open is kept open here, as an option without a value: the directory to write
to, the configuration file and the namespace are decided when the command runs, since they depend on
the configuration that is found.
-/

namespace TypedClients

/-- A request for generated files. -/
structure GenerateRequest where
  /-- Declaration files, and directories with such files in them. -/
  inputs : List String
  outputDirectory : Option String
  /-- Whether to report what is out of date, and to write nothing. -/
  check : Bool
  config : Option String
  /-- Whether to leave out the file of attribute definitions. -/
  withoutAttributes : Bool
deriving Repr, DecidableEq

/-- A request for the clients of a declaration file. -/
structure InspectRequest where
  input : String
  config : Option String
deriving Repr, DecidableEq

/-- A request for the attribute definitions. -/
structure AttributesRequest where
  scope : Option String
  /-- The file to write; without one the definitions are printed. -/
  output : Option String
  config : Option String
deriving Repr, DecidableEq

/-- What a command line asks for. -/
inductive Command where
  | help
  | version
  | generate (request : GenerateRequest)
  | inspect (request : InspectRequest)
  | attributes (request : AttributesRequest)
deriving Repr, DecidableEq

end TypedClients
