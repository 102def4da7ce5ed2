import PluginSchema.Schema
import PluginSchema.Conversion.Attribute

/-!
# Conversion of schemas

A schema converts if each of its attributes does, and a plugin's schemas convert if each of
them does: the configuration first, then resources and data sources by ascending name.
-/

namespace PluginSchema

open Conversion (Event Run)

/-- Convert the attributes of a block that stands at a path. -/
def Block.convert (capabilities : Capabilities) (path : Path) (block : Block) :
    Run Wire.Block := do
  let attributes ← Attribute.convertAll capabilities path block.attributes
  return {
    attributes
    description := block.documentation.toWire
    deprecated := block.documentation.isDeprecated }

namespace Schema

/-- Convert a schema, whose block stands at the root. -/
def convert (capabilities : Capabilities) (schema : Schema) : Run Wire.Schema := do
  let block ← schema.block.convert capabilities .root
  return { version := saturated schema.version, block }

/-- Convert named schemas in their order, each announced by an event. -/
def convertAll (capabilities : Capabilities) (announce : String → Event) :
    List (String × Schema) → Run (List (String × Wire.Schema))
  | [] => pure []
  | (name, schema) :: rest => do
    Run.report (announce name)
    let first ← schema.convert capabilities
    let others ← convertAll capabilities announce rest
    return (name, first) :: others

end Schema

namespace ProviderSchema

/-- Convert the schemas of a plugin one after the other. -/
def convertEach (capabilities : Capabilities) (schemas : ProviderSchema) :
    Run Wire.ProviderSchema := do
  let provider ← schemas.provider.convert capabilities
  let resources ← Schema.convertAll capabilities .resourceStarted schemas.resources
  let dataSources ← Schema.convertAll capabilities .dataSourceStarted schemas.dataSources
  return { provider, resources, dataSources }

/-- The event that ends the conversion of a plugin's schemas. -/
def outcome : Except SchemaError Wire.ProviderSchema → Event
  | .ok converted => .providerConverted converted.resources.length converted.dataSources.length
  | .error error => .providerFailed error

/-- Convert the schemas of a plugin, and report at last how it ended. -/
def convert (capabilities : Capabilities) (schemas : ProviderSchema) :
    Run Wire.ProviderSchema :=
  let run := schemas.convertEach capabilities
  ⟨run.events ++ [outcome run.result], run.result⟩

end ProviderSchema

end PluginSchema
