import PluginSchema.Protobuf.Message

/-!
# Messages as bytes

Fields are written by ascending number. An inner message that is there is written even if it is
empty, while other defaults are left out. The entries of a map are messages of a key and a value
and are written in the order in which they are listed.
-/

namespace PluginSchema.Message

open Protobuf

namespace Attribute

mutual

/-- The bytes of an attribute. -/
def encode : Attribute → Bytes
  | ⟨name, type, nested, description, flags, kind, deprecated⟩ =>
    stringField 1 name
      ++ bytesField 2 type
      ++ stringField 3 description
      ++ boolField 4 flags.required
      ++ boolField 5 flags.optional
      ++ boolField 6 flags.computed
      ++ boolField 7 flags.sensitive
      ++ enumField 8 kind
      ++ boolField 9 deprecated
      ++ match nested with
        | none => []
        | some ⟨attributes, nesting, low, high⟩ =>
          delimitedField 10
            (encodeAll 1 attributes
              ++ enumField 3 nesting
              ++ int64Field 4 low
              ++ int64Field 5 high)

/-- The bytes of a repeated field with attributes. -/
def encodeAll (number : Nat) : List Attribute → Bytes
  | [] => []
  | a :: rest => delimitedField number a.encode ++ encodeAll number rest

end

end Attribute

/-- The bytes of an object of nested attributes. -/
def Object.encode (object : Object Attribute) : Bytes :=
  Attribute.encodeAll 1 object.attributes
    ++ enumField 3 object.nesting
    ++ int64Field 4 object.minItems
    ++ int64Field 5 object.maxItems

/-- The bytes of a block. -/
def Block.encode (block : Block) : Bytes :=
  int64Field 1 block.version
    ++ Attribute.encodeAll 2 block.attributes
    ++ stringField 4 block.description
    ++ enumField 5 block.kind
    ++ boolField 6 block.deprecated

/-- The bytes of a field with an inner message that may be absent. -/
def optionalField {α : Type} (number : Nat) (encode : α → Bytes) : Option α → Bytes
  | none => []
  | some value => delimitedField number (encode value)

namespace Schema

/-- The bytes of a schema. -/
def encode (schema : Schema) : Bytes :=
  int64Field 1 schema.version ++ optionalField 2 Block.encode schema.block

/-- The bytes of a map's entry, where a default value is left out. -/
def encodeEntry (entry : String × Schema) : Bytes :=
  stringField 1 entry.1
    ++ if entry.2.version = 0 ∧ entry.2.block.isNone then []
      else delimitedField 2 entry.2.encode

end Schema

/-- The bytes of a plugin's schemas. -/
def ProviderSchema.encode (schemas : ProviderSchema) : Bytes :=
  optionalField 1 Schema.encode schemas.provider
    ++ schemas.resources.flatMap (fun entry => delimitedField 2 (Schema.encodeEntry entry))
    ++ schemas.dataSources.flatMap (fun entry => delimitedField 3 (Schema.encodeEntry entry))

end PluginSchema.Message
