import PluginSchema.Notation.Attribute
import PluginSchema.Schema

/-!
# Schemas as JSON

The members of a schema's block stand among its own. An empty map of attributes is not written.
Below a schema everything but its version is buffered.
-/

namespace PluginSchema

open Json (RecordField Mode Reader Value)

namespace Block

/-- The members of a block. -/
def members (block : Block) : List (String × Value) :=
  (if block.attributes.isEmpty then []
    else [("attributes", .obj (Attribute.allToJson block.attributes))])
    ++ block.documentation.members

/-- The JSON of a block that stands alone. -/
def toJson (block : Block) : Value := .obj block.members

/-- The fields of a block; each has a default. -/
def fields (mode : Mode) : List (RecordField Block) :=
  .of "attributes" (Json.readMap (Attribute.read mode))
      (fun block value => { block with attributes := value })
    :: Documentation.fields
      fun change block => { block with documentation := change block.documentation }

/-- Read a block that stands alone. -/
def read (mode : Mode) : Reader Block := Json.readRecord mode "Block" (fields mode) {}

end Block

namespace Schema

/-- The JSON of a schema. -/
def toJson (schema : Schema) : Value :=
  .obj (("version", .int schema.version.toNat) :: schema.block.members)

/-- The fields of a schema beside those of its block. -/
def fields : List (RecordField Schema) := [
  .of "version" Json.readUInt64 fun schema value => { schema with version := value }]

/-- Read a schema. -/
def read : Reader Schema := fun room node => do
  let (schema, block) ←
    Json.readMerged "Schema" fields {} (Block.fields .buffered) {} room node
  return { schema with block }

end Schema

namespace ProviderSchema

/-- The JSON of named schemas. -/
def schemasToJson (schemas : NameMap Schema) : Value :=
  .obj (schemas.map fun (name, schema) => (name, schema.toJson))

/-- The JSON of a plugin's schemas. -/
def toJson (schemas : ProviderSchema) : Value := .obj [
  ("provider", schemas.provider.toJson),
  ("resources", schemasToJson schemas.resources),
  ("data_sources", schemasToJson schemas.dataSources)]

/-- The fields of a plugin's schemas; each has a default. -/
def fields : List (RecordField ProviderSchema) := [
  .of "provider" Schema.read fun schemas value => { schemas with provider := value },
  .of "resources" (Json.readMap Schema.read)
    fun schemas value => { schemas with resources := value },
  .of "data_sources" (Json.readMap Schema.read)
    fun schemas value => { schemas with dataSources := value }]

/-- Read a plugin's schemas. -/
def read : Reader ProviderSchema := Json.readRecord .direct "ProviderSchema" fields {}

end ProviderSchema

end PluginSchema
