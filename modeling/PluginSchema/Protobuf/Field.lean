import PluginSchema.Protobuf.Varint

/-!
# Fields of a message

A message is a sequence of fields, each with a number and a payload. Writing leaves out payloads
that a reader takes as default: zero and the empty sequence. Reading splits the bytes of a
message into its fields; what a field means is for the message to say.

Messages and groups nest only so deep: `room` is the number of levels that a reader may still
enter, and passing over a field takes one of them.
-/

namespace PluginSchema.Protobuf

/-- What a field holds. Fixed numbers and groups occur only in fields that are passed over. -/
inductive Payload where
  | varint (value : Nat)
  | bytes (value : Bytes)
  | fixed
  | group

/-- A field of a message. -/
structure WireField where
  number : Nat
  payload : Payload

/-- The key of a field. -/
def key (number wireType : Nat) : Bytes := varint (number * 8 + wireType)

/-- A field with a number of 64 bits. -/
def uint64Field (number : Nat) (value : UInt64) : Bytes :=
  if value = 0 then [] else key number 0 ++ varint value.toNat

/-- A field with a signed number of 64 bits. -/
def int64Field (number : Nat) (value : Int64) : Bytes := uint64Field number value.toUInt64

/-- A field with the number of an enumeration's value, which is extended with its sign. -/
def enumField (number : Nat) (value : Int32) : Bytes := int64Field number value.toInt64

/-- A field with a truth value. -/
def boolField (number : Nat) (value : Bool) : Bytes := uint64Field number value.toUInt64

/-- A field with bytes behind their number, even if there are none. -/
def delimitedField (number : Nat) (value : Bytes) : Bytes :=
  key number 2 ++ varint value.length ++ value

/-- A field with bytes. -/
def bytesField (number : Nat) (value : Bytes) : Bytes :=
  if value.isEmpty then [] else delimitedField number value

/-- The bytes of a text. -/
def utf8 (text : String) : Bytes := text.toByteArray.data.toList

/-- A field with a text. -/
def stringField (number : Nat) (value : String) : Bytes := bytesField number (utf8 value)

/-- The number of levels that messages may nest below the outermost one. -/
def maxDepth : Nat := 100

/-- Read the key of a field: its number, which is not zero, and one of the six wire types. -/
def readKey (bytes : Bytes) : Option (Nat × Nat × Bytes) := do
  let (key, rest) ← readVarint bytes
  if key < UInt32.size ∧ 8 ≤ key ∧ key % 8 < 6 then some (key / 8, key % 8, rest) else none

/-- Read the payload of a wire type that is no group. -/
def readPayload (wireType : Nat) (bytes : Bytes) : Option (Payload × Bytes) := do
  match wireType with
  | 0 =>
    let (value, rest) ← readVarint bytes
    return (.varint value, rest)
  | 1 =>
    let (_, rest) ← splitExactly 8 bytes
    return (.fixed, rest)
  | 2 =>
    let (value, rest) ← readDelimited bytes
    return (.bytes value, rest)
  | 5 =>
    let (_, rest) ← splitExactly 4 bytes
    return (.fixed, rest)
  | _ => none

/-- Pass over the fields of a group up to the key that ends the group of a number. -/
def skipGroup : Nat → Nat → Nat → Bytes → Option Bytes
  | 0, _, _, _ => none
  | fuel + 1, room, number, bytes => do
    let (inner, wireType, rest) ← readKey bytes
    if wireType = 4 then
      if inner = number then some rest else none
    else if room = 0 then none
    else if wireType = 3 then
      let rest ← skipGroup fuel (room - 1) inner rest
      skipGroup fuel room number rest
    else
      let (_, rest) ← readPayload wireType rest
      skipGroup fuel room number rest

/-- Read a field. A field of a map is always read as bytes behind their number, whatever wire
type its key gives. -/
def readField (isMap : Nat → Bool) (room : Nat) (bytes : Bytes) :
    Option (WireField × Bytes) := do
  let (number, wireType, rest) ← readKey bytes
  if isMap number then
    let (value, rest) ← readDelimited rest
    return (⟨number, .bytes value⟩, rest)
  else if wireType = 3 then
    let rest ← skipGroup rest.length (room - 1) number rest
    return (⟨number, .group⟩, rest)
  else
    let (payload, rest) ← readPayload wireType rest
    return (⟨number, payload⟩, rest)

/-- Read the fields of a message, with as many steps as it has bytes. -/
def readFieldsWithin (isMap : Nat → Bool) (room : Nat) : Nat → Bytes → Option (List WireField)
  | _, [] => some []
  | 0, _ :: _ => none
  | fuel + 1, bytes => do
    let (field, rest) ← readField isMap room bytes
    let others ← readFieldsWithin isMap room fuel rest
    return field :: others

/-- Read the fields of a message. -/
def readFields (isMap : Nat → Bool) (room : Nat) (bytes : Bytes) : Option (List WireField) :=
  readFieldsWithin isMap room bytes.length bytes

namespace WireField

/-- The number that a field holds. -/
def varint? (field : WireField) : Option Nat :=
  match field.payload with
  | .varint value => some value
  | _ => none

/-- The signed number of 64 bits that a field holds. -/
def int64? (field : WireField) : Option Int64 :=
  field.varint?.map fun value => (UInt64.ofNat value).toInt64

/-- The number of an enumeration's value that a field holds, of which the low bits count. -/
def enum? (field : WireField) : Option Int32 :=
  field.varint?.map fun value => (UInt32.ofNat value).toInt32

/-- The truth value that a field holds. -/
def bool? (field : WireField) : Option Bool := field.varint?.map (· != 0)

/-- The bytes that a field holds. -/
def bytes? (field : WireField) : Option Bytes :=
  match field.payload with
  | .bytes value => some value
  | _ => none

/-- The text that a field holds. -/
def string? (field : WireField) : Option String := do
  String.fromUTF8? (← field.bytes?).toByteArray

end WireField

variable {α : Type}

/-- Read the fields of a message one after the other into a value. -/
def mergeFields (isMap : Nat → Bool) (room : Nat) (step : α → WireField → Option α)
    (value : α) (bytes : Bytes) : Option α := do
  (← readFields isMap room bytes).foldlM step value

/-- Pass over a field that a message does not know. -/
def pass (room : Nat) (value : α) : Option α := if room = 0 then none else some value

/-- Enter a message within a message. -/
def descend (merge : Nat → α → Bytes → Option α) : Nat → α → Bytes → Option α
  | 0, _, _ => none
  | room + 1, value, bytes => merge room value bytes

end PluginSchema.Protobuf
