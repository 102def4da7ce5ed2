import PluginSchema.AttributeType
import PluginSchema.Json.Value
import PluginSchema.Json.Variant

/-!
# Attribute types as JSON

A type without parts is written as its name, a type with parts as an object whose one member
has the name of the type as its key.
-/

namespace PluginSchema.AttributeType

open Json (Mode Reader Value Variant)

mutual

/-- The JSON of a type. -/
def toJson : AttributeType → Value
  | string => .str "string"
  | number => .str "number"
  | int64 => .str "int64"
  | float64 => .str "float64"
  | bool => .str "bool"
  | list element => .obj [("list", element.toJson)]
  | set element => .obj [("set", element.toJson)]
  | map element => .obj [("map", element.toJson)]
  | object fields => .obj [("object", .obj (fieldsToJson fields))]
  | dynamic => .str "dynamic"

/-- The JSON of the types of an object's fields. -/
def fieldsToJson : List (String × AttributeType) → List (String × Value)
  | [] => []
  | (name, type) :: rest => (name, type.toJson) :: fieldsToJson rest

end

/-- The names of types, in the order in which messages list them, given a reader for the types
that a type is made of. -/
def variants (part : Reader AttributeType) : List (String × Variant AttributeType) := [
  ("string", .bare string),
  ("number", .bare number),
  ("int64", .bare int64),
  ("float64", .bare float64),
  ("bool", .bare bool),
  ("list", .content fun room node => return list (← part room node)),
  ("set", .content fun room node => return set (← part room node)),
  ("map", .content fun room node => return map (← part room node)),
  ("object", .content fun room node => return object (← Json.readMap part room node)),
  ("dynamic", .bare dynamic)]

/-- Read a type in which types nest fewer than so many levels deep. -/
def readWithin (mode : Mode) : Nat → Reader AttributeType
  | 0 => fun _ _ => .broken .malformed
  | levels + 1 => Json.readVariant mode (variants (readWithin mode levels))

/-- Read a type. Each type in it stands in a container of its own, so there are no more levels
than containers. -/
def read (mode : Mode) : Reader AttributeType := fun room => readWithin mode (room + 1) room

end PluginSchema.AttributeType
