import PluginSchema.Json.Draft
import PluginSchema.Notation.Attribute
import PluginSchema.Wire.Schema

/-!
# Wire records as JSON

The notation of types is the protocol's own: a simple type is its name, any other an array of a
name and what it is made of. The records are written for inspection; a type, a group or a format
that is absent is left out.
-/

namespace PluginSchema.Wire

open Json (Draft Value)

namespace ValueType

mutual

/-- The notation of a type. -/
def toJson : ValueType → Value
  | string => .str "string"
  | number => .str "number"
  | bool => .str "bool"
  | dynamic => .str "dynamic"
  | list element => .arr [.str "list", element.toJson]
  | set element => .arr [.str "set", element.toJson]
  | map element => .arr [.str "map", element.toJson]
  | object fields => .arr [.str "object", .obj (fieldsToJson fields)]

/-- The notation of the types of an object's fields. -/
def fieldsToJson : List (String × ValueType) → List (String × Value)
  | [] => []
  | (name, type) :: rest => (name, type.toJson) :: fieldsToJson rest

end

mutual

/-- What is asked to be written as the notation of a type. -/
def draft : ValueType → Draft
  | string => .str "string"
  | number => .str "number"
  | bool => .str "bool"
  | dynamic => .str "dynamic"
  | list element => .seq [.str "list", element.draft]
  | set element => .seq [.str "set", element.draft]
  | map element => .seq [.str "map", element.draft]
  | object fields => .seq [.str "object", .map (fieldDrafts fields)]

/-- What is asked to be written for the types of an object's fields. -/
def fieldDrafts : List (String × ValueType) → List (Draft × Draft)
  | [] => []
  | (name, type) :: rest => (.str name, type.draft) :: fieldDrafts rest

end

end ValueType

namespace StringKind

/-- The name of a format. -/
def name : StringKind → String
  | plain => "plain"
  | markdown => "markdown"

/-- The JSON of a format. -/
def toJson (kind : StringKind) : Value := .str kind.name

end StringKind

/-- The members that hold a description. -/
def Description.members (description : Description) : List (String × Value) :=
  ("description", .str description.text)
    :: Value.optional "description_kind" StringKind.toJson description.kind

/-- The JSON of an object whose attributes are written already. -/
def Object.write {α : Type} (object : Object α) (attributes : List Value) : Value := .obj [
  ("attributes", .arr attributes),
  ("nesting", object.nesting.toJson),
  ("min_items", .int object.minItems.toInt),
  ("max_items", .int object.maxItems.toInt)]

namespace Attribute

/-- The members that follow the type and the group of an attribute. -/
def lastMembers (description : Description) (flags : Flags) (deprecated : Bool) :
    List (String × Value) :=
  description.members ++ flags.members ++ [("deprecated", .bool deprecated)]

mutual

/-- The JSON of an attribute. -/
def toJson : Attribute → Value
  | ⟨name, type, none, description, flags, deprecated⟩ =>
    .obj (("name", .str name) :: Value.optional "type" ValueType.toJson type
      ++ lastMembers description flags deprecated)
  | ⟨name, type, some ⟨attributes, nesting, low, high⟩, description, flags, deprecated⟩ =>
    .obj (("name", .str name) :: Value.optional "type" ValueType.toJson type
      ++ ("nested_type", (⟨attributes, nesting, low, high⟩ : Object Attribute).write
            (allToJson attributes))
        :: lastMembers description flags deprecated)

/-- The JSON of attributes. -/
def allToJson : List Attribute → List Value
  | [] => []
  | a :: rest => a.toJson :: allToJson rest

end

end Attribute

/-- The JSON of an object of nested attributes. -/
def Object.toJson (object : Object Attribute) : Value :=
  object.write (Attribute.allToJson object.attributes)

/-- The JSON of a block. -/
def Block.toJson (block : Block) : Value :=
  .obj (("attributes", .arr (Attribute.allToJson block.attributes))
    :: block.description.members ++ [("deprecated", .bool block.deprecated)])

/-- The JSON of a schema. -/
def Schema.toJson (schema : Schema) : Value := .obj [
  ("version", .int schema.version.toInt),
  ("block", schema.block.toJson)]

/-- The JSON of named schemas. -/
def Schema.allToJson (schemas : NameMap Schema) : Value :=
  .obj (schemas.map fun (name, schema) => (name, schema.toJson))

/-- The JSON of a plugin's schemas. -/
def ProviderSchema.toJson (schemas : ProviderSchema) : Value := .obj [
  ("provider", schemas.provider.toJson),
  ("resource_schemas", Schema.allToJson schemas.resources),
  ("data_source_schemas", Schema.allToJson schemas.dataSources)]

end PluginSchema.Wire
