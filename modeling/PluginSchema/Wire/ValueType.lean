import PluginSchema.AttributeType

/-!
# Types on the wire

The protocol's own notion of a value's type: it knows one type of number, and leaves the type of
a dynamic value to be told with the value.
-/

namespace PluginSchema

/-- The type of a value, as the protocol knows it. -/
inductive Wire.ValueType where
  | string
  | number
  | bool
  | dynamic
  | list (element : Wire.ValueType)
  | set (element : Wire.ValueType)
  | map (element : Wire.ValueType)
  | object (fields : List (String × Wire.ValueType))

/-- An object type from fields in any order; the last type given for a name stands. -/
def Wire.ValueType.ofFields (fields : List (String × Wire.ValueType)) : Wire.ValueType :=
  .object (NameMap.ofList fields)

namespace AttributeType

mutual

/-- The wire type of values of a type: every kind of number is a number. -/
def toWire : AttributeType → Wire.ValueType
  | string => .string
  | number | int64 | float64 => .number
  | bool => .bool
  | dynamic => .dynamic
  | list element => .list element.toWire
  | set element => .set element.toWire
  | map element => .map element.toWire
  | object fields => .object (fieldsToWire fields)

/-- The wire types of fields, under the same names. -/
def fieldsToWire : List (String × AttributeType) → List (String × Wire.ValueType)
  | [] => []
  | (name, type) :: rest => (name, type.toWire) :: fieldsToWire rest

end

end AttributeType

end PluginSchema
