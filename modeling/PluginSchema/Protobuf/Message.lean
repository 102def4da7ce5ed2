import PluginSchema.Attribute
import PluginSchema.Protobuf.Field

/-!
# Schema messages

The messages of the plugin protocol. Attribute types travel as bytes, and the values of
enumerations as numbers that need not be known to the reader.
-/

namespace PluginSchema.Message

open Protobuf

/-- The values of an enumeration: their numbers and names. The first is the default. -/
abbrev Enumeration := List (Int32 × String)

namespace Enumeration

/-- How the object of nested attributes occurs. -/
def nestingMode : Enumeration :=
  [(0, "INVALID"), (1, "SINGLE"), (2, "LIST"), (3, "SET"), (4, "MAP")]

/-- How to show a description. -/
def stringKind : Enumeration := [(0, "PLAIN"), (1, "MARKDOWN")]

/-- The name of a number. -/
def name? (values : Enumeration) (number : Int32) : Option String := values.lookup number

/-- The number of a name. -/
def number? (values : Enumeration) (name : String) : Option Int32 :=
  (values.find? (·.2 == name)).map (·.1)

/-- The name of a number, or the default's name if the number is unknown. -/
def nameOrDefault (values : Enumeration) (number : Int32) : String :=
  (values.name? number).getD ((values.head?.map (·.2)).getD "")

end Enumeration

/-- An object of nested attributes of type `α`. -/
structure Object (α : Type) where
  attributes : List α := []
  nesting : Int32 := 0
  minItems : Int64 := 0
  maxItems : Int64 := 0
  deriving DecidableEq

/-- The message of an attribute. -/
structure Attribute where
  name : String := ""
  type : Bytes := []
  nested : Option (Object Attribute) := none
  description : String := ""
  flags : Flags := {}
  kind : Int32 := 0
  deprecated : Bool := false

/-- The message of a block. -/
structure Block where
  version : Int64 := 0
  attributes : List Attribute := []
  description : String := ""
  kind : Int32 := 0
  deprecated : Bool := false

/-- The message of a schema. -/
structure Schema where
  version : Int64 := 0
  block : Option Block := none

/-- The message of a plugin's schemas; its maps are listed by ascending name. -/
structure ProviderSchema where
  provider : Option Schema := none
  resources : List (String × Schema) := []
  dataSources : List (String × Schema) := []

end PluginSchema.Message
