import PluginSchema.Attribute

/-!
# Schemas

A schema is a version and a block of attributes. A plugin describes its own configuration, its
resources and its data sources by one schema each.
-/

namespace PluginSchema

/-- The attributes of a schema, by name, and their documentation. -/
structure Block where
  attributes : List (String × Attribute) := []
  documentation : Documentation := {}
  deriving DecidableEq

/-- A block with the version of the state that it describes. -/
structure Schema where
  version : UInt64 := 0
  block : Block := {}
  deriving DecidableEq

/-- The schemas of a plugin: its configuration, its resources and its data sources. -/
structure ProviderSchema where
  provider : Schema := {}
  resources : List (String × Schema) := []
  dataSources : List (String × Schema) := []
  deriving DecidableEq

namespace Block

/-- Add or replace an attribute. -/
def withAttribute (block : Block) (name : String) (a : Attribute) : Block :=
  { block with attributes := NameMap.insert name a block.attributes }

/-- Give the plain description. -/
def withDescription (block : Block) (text : String) : Block :=
  { block with documentation := { block.documentation with description := some text } }

/-- Give the markdown description. -/
def withMarkdown (block : Block) (text : String) : Block :=
  { block with documentation := { block.documentation with markdown := some text } }

end Block

namespace Schema

/-- An empty schema of a version. -/
def ofVersion (version : UInt64) : Schema := { version }

/-- Add or replace an attribute of the block. -/
def withAttribute (schema : Schema) (name : String) (a : Attribute) : Schema :=
  { schema with block := schema.block.withAttribute name a }

end Schema

namespace ProviderSchema

/-- Give the schema of the plugin's own configuration. -/
def withProvider (schemas : ProviderSchema) (schema : Schema) : ProviderSchema :=
  { schemas with provider := schema }

/-- Add or replace the schema of a resource. -/
def withResource (schemas : ProviderSchema) (name : String) (schema : Schema) : ProviderSchema :=
  { schemas with resources := NameMap.insert name schema schemas.resources }

/-- Add or replace the schema of a data source. -/
def withDataSource (schemas : ProviderSchema) (name : String) (schema : Schema) :
    ProviderSchema :=
  { schemas with dataSources := NameMap.insert name schema schemas.dataSources }

end ProviderSchema

end PluginSchema
