import PluginSchema.Attribute
import PluginSchema.Wire.ValueType

/-!
# Schemas on the wire

The records that a plugin sends in answer to a request for its schemas. Attributes are lists by
ascending name, and one description with its format stands for all the texts of an author.
-/

namespace PluginSchema.Wire

/-- How to show a description. -/
inductive StringKind where
  | plain
  | markdown
  deriving DecidableEq

/-- A description, with a format if there is one. -/
structure Description where
  text : String := ""
  kind : Option StringKind := none
  deriving DecidableEq

/-- Nested attributes of type `α`, how often their object occurs, and within which bounds. -/
structure Object (α : Type) where
  attributes : List α
  nesting : NestingMode
  minItems : Int64 := 0
  maxItems : Int64 := 0

/-- An attribute on the wire. -/
structure Attribute where
  name : String := ""
  type? : Option ValueType := none
  nested : Option (Object Attribute) := none
  description : Description := {}
  flags : Flags := {}
  deprecated : Bool := false

/-- The attributes of a schema on the wire. -/
structure Block where
  attributes : List Attribute := []
  description : Description := {}
  deprecated : Bool := false

/-- A schema on the wire. -/
structure Schema where
  version : Int64 := 0
  block : Block := {}

/-- All schemas of a plugin on the wire. -/
structure ProviderSchema where
  provider : Schema := {}
  resources : List (String × Schema) := []
  dataSources : List (String × Schema) := []

end PluginSchema.Wire
