import PluginSchema.Notation.Wire
import PluginSchema.Protobuf.Message

/-!
# Messages of wire records

A type travels as the bytes of its notation, and no bytes stand for no type, or for one that
cannot be written. A description without a format is sent as plain text. The block of a schema
repeats the schema's version.
-/

namespace PluginSchema.Wire

open Protobuf

/-- The bytes of a type's notation, unless it cannot be written. -/
def ValueType.encode (type : ValueType) : Except Json.WriteError Bytes :=
  return utf8 (← type.draft.text)

/-- The bytes in which a type travels. -/
def ValueType.encoded (type : ValueType) : Bytes := type.encode.toOption.getD []

/-- The number of a format. -/
def StringKind.number : Option StringKind → Int32
  | none | some plain => 0
  | some markdown => 1

/-- The number of a nesting mode. -/
def nestingNumber : NestingMode → Int32
  | .single => 1
  | .list => 2
  | .set => 3
  | .map => 4

namespace Attribute

mutual

/-- The message of an attribute. -/
def toMessage : Attribute → Message.Attribute
  | ⟨name, type, none, description, flags, deprecated⟩ => {
    name, flags, deprecated
    type := (type.map ValueType.encoded).getD []
    description := description.text
    kind := StringKind.number description.kind }
  | ⟨name, type, some ⟨attributes, nesting, low, high⟩, description, flags, deprecated⟩ => {
    name, flags, deprecated
    type := (type.map ValueType.encoded).getD []
    nested := some {
      attributes := allToMessages attributes
      nesting := nestingNumber nesting
      minItems := low
      maxItems := high }
    description := description.text
    kind := StringKind.number description.kind }

/-- The messages of attributes. -/
def allToMessages : List Attribute → List Message.Attribute
  | [] => []
  | a :: rest => a.toMessage :: allToMessages rest

end

end Attribute

/-- The message of an object of nested attributes. -/
def Object.toMessage (object : Object Attribute) : Message.Object Message.Attribute where
  attributes := Attribute.allToMessages object.attributes
  nesting := nestingNumber object.nesting
  minItems := object.minItems
  maxItems := object.maxItems

/-- The message of a schema. -/
def Schema.toMessage (schema : Schema) : Message.Schema where
  version := schema.version
  block := some {
    version := schema.version
    attributes := Attribute.allToMessages schema.block.attributes
    description := schema.block.description.text
    kind := StringKind.number schema.block.description.kind
    deprecated := schema.block.deprecated }

/-- The message of a plugin's schemas. -/
def ProviderSchema.toMessage (schemas : ProviderSchema) : Message.ProviderSchema where
  provider := some schemas.provider.toMessage
  resources := schemas.resources.map fun (name, schema) => (name, schema.toMessage)
  dataSources := schemas.dataSources.map fun (name, schema) => (name, schema.toMessage)

end PluginSchema.Wire
