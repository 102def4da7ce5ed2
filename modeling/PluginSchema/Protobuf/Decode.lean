import PluginSchema.NameMap
import PluginSchema.Protobuf.Message

/-!
# Messages from bytes

The fields of a message may come in any order and repeatedly: the last of several simple values
stands, lists grow, and inner messages are merged. A map's later entry replaces an earlier one
with its key. Any fault of the bytes refuses the whole message.
-/

namespace PluginSchema.Message

open Protobuf

/-- No field of the message is a map. -/
def noMaps : Nat → Bool := fun _ => false

/-- Take in a field of an object, given a reader for its attributes. -/
def Object.step (child : Attribute → Bytes → Option Attribute) (room : Nat)
    (object : Object Attribute) (field : WireField) : Option (Object Attribute) := do
  match field.number with
  | 1 =>
    let a ← child {} (← field.bytes?)
    return { object with attributes := object.attributes ++ [a] }
  | 3 => return { object with nesting := ← field.enum? }
  | 4 => return { object with minItems := ← field.int64? }
  | 5 => return { object with maxItems := ← field.int64? }
  | _ => pass room object

/-- Take in a field of an attribute, given a reader for its object of nested attributes. -/
def Attribute.step (inner : Object Attribute → Bytes → Option (Object Attribute)) (room : Nat)
    (a : Attribute) (field : WireField) : Option Attribute := do
  match field.number with
  | 1 => return { a with name := ← field.string? }
  | 2 => return { a with type := ← field.bytes? }
  | 3 => return { a with description := ← field.string? }
  | 4 => return { a with flags := { a.flags with required := ← field.bool? } }
  | 5 => return { a with flags := { a.flags with optional := ← field.bool? } }
  | 6 => return { a with flags := { a.flags with computed := ← field.bool? } }
  | 7 => return { a with flags := { a.flags with sensitive := ← field.bool? } }
  | 8 => return { a with kind := ← field.enum? }
  | 9 => return { a with deprecated := ← field.bool? }
  | 10 =>
    let object ← inner (a.nested.getD {}) (← field.bytes?)
    return { a with nested := some object }
  | _ => pass room a

mutual

/-- Merge the bytes of an attribute into one. -/
def Attribute.merge : Nat → Attribute → Bytes → Option Attribute
  | 0 => mergeFields noMaps 0 (Attribute.step (fun _ _ => none) 0)
  | room + 1 => mergeFields noMaps (room + 1) (Attribute.step (Object.merge room) (room + 1))

/-- Merge the bytes of an object of nested attributes into one. -/
def Object.merge : Nat → Object Attribute → Bytes → Option (Object Attribute)
  | 0 => mergeFields noMaps 0 (Object.step (fun _ _ => none) 0)
  | room + 1 => mergeFields noMaps (room + 1) (Object.step (Attribute.merge room) (room + 1))

end

/-- Merge the bytes of a block into one. -/
def Block.merge (room : Nat) : Block → Bytes → Option Block :=
  mergeFields noMaps room fun block field => do
    match field.number with
    | 1 => return { block with version := ← field.int64? }
    | 2 =>
      let a ← descend Attribute.merge room {} (← field.bytes?)
      return { block with attributes := block.attributes ++ [a] }
    | 4 => return { block with description := ← field.string? }
    | 5 => return { block with kind := ← field.enum? }
    | 6 => return { block with deprecated := ← field.bool? }
    | _ => pass room block

/-- Merge the bytes of a schema into one. -/
def Schema.merge (room : Nat) : Schema → Bytes → Option Schema :=
  mergeFields noMaps room fun schema field => do
    match field.number with
    | 1 => return { schema with version := ← field.int64? }
    | 2 =>
      let block ← descend Block.merge room (schema.block.getD {}) (← field.bytes?)
      return { schema with block := some block }
    | _ => pass room schema

/-- Merge the bytes of a map's entry into one. -/
def Schema.mergeEntry (room : Nat) : String × Schema → Bytes → Option (String × Schema) :=
  mergeFields noMaps room fun entry field => do
    match field.number with
    | 1 => return (← field.string?, entry.2)
    | 2 => return (entry.1, ← descend Schema.merge room entry.2 (← field.bytes?))
    | _ => pass room entry

/-- Take in an entry of a map. -/
def Schema.addEntry (room : Nat) (schemas : NameMap Schema) (bytes : Bytes) :
    Option (NameMap Schema) := do
  let (name, schema) ← descend Schema.mergeEntry room ("", {}) bytes
  return NameMap.insert name schema schemas

/-- Merge the bytes of a plugin's schemas into some. -/
def ProviderSchema.merge (room : Nat) : ProviderSchema → Bytes → Option ProviderSchema :=
  mergeFields (fun number => number == 2 || number == 3) room fun schemas field => do
    match field.number with
    | 1 =>
      let provider ← descend Schema.merge room (schemas.provider.getD {}) (← field.bytes?)
      return { schemas with provider := some provider }
    | 2 =>
      return { schemas with
        resources := ← Schema.addEntry room schemas.resources (← field.bytes?) }
    | 3 =>
      return { schemas with
        dataSources := ← Schema.addEntry room schemas.dataSources (← field.bytes?) }
    | _ => pass room schemas

/-- Read the bytes of an attribute. -/
def Attribute.decode (bytes : Bytes) : Option Attribute := Attribute.merge maxDepth {} bytes

/-- Read the bytes of an object of nested attributes. -/
def Object.decode (bytes : Bytes) : Option (Object Attribute) := Object.merge maxDepth {} bytes

/-- Read the bytes of a block. -/
def Block.decode (bytes : Bytes) : Option Block := Block.merge maxDepth {} bytes

/-- Read the bytes of a schema. -/
def Schema.decode (bytes : Bytes) : Option Schema := Schema.merge maxDepth {} bytes

/-- Read the bytes of a plugin's schemas. -/
def ProviderSchema.decode (bytes : Bytes) : Option ProviderSchema :=
  ProviderSchema.merge maxDepth {} bytes

end PluginSchema.Message
