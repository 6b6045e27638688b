import TypedClients.Serialization

/-!
# Project-wide defaults

The settings beneath the options of a class: they fill in what a class leaves open.

A configuration sets some of them and leaves the others as they are in the standard. The threshold
is a number of milliseconds that fits 32 bits: what is set is cut to the range, and never refused.
-/

namespace TypedClients

/-- The namespace of the attribute definitions when none is set. -/
def defaultRootNamespace : String := "ApiClient.Generated"

/-- Settings that hold where a class says nothing. -/
structure Defaults where
  /-- The namespace of the attribute definitions. -/
  rootNamespace : String
  serializer : Serializer
  /-- Whether cancellation tokens are handed to the reads of a response. -/
  modernRuntime : Bool
  /-- The slow-call threshold in milliseconds; zero reports none. -/
  slowCallThreshold : Nat
deriving Repr, DecidableEq

/-- The settings of a project that sets nothing. -/
def Defaults.standard : Defaults where
  rootNamespace := defaultRootNamespace
  serializer := .newtonsoft
  modernRuntime := false
  slowCallThreshold := 0

/-- The defaults with a serializer chosen on top of them. -/
def Defaults.withSerialization (defaults : Defaults) (mode : SerializationMode) : Defaults :=
  { defaults with serializer := mode.resolve defaults.serializer }

/-- The largest threshold. -/
def maxThreshold : Nat := 4294967295

/-- A number of milliseconds as a threshold: negative ones disable, large ones are cut to 32
bits. -/
def clampThreshold (milliseconds : Int64) : Nat :=
  min milliseconds.toInt.toNat maxThreshold

end TypedClients
