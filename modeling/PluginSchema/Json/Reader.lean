import PluginSchema.Json.Document
import PluginSchema.Json.Error
import PluginSchema.NameMap

/-!
# Reading values

A reader takes a node to a value of a type. Containers may nest only so deep: a reader is given
the number of containers that it may still enter. Members whose meaning is not known may be
passed over, at any depth and without a look at the values of strings and numbers, or looked
through as strictly as if they were read.

A value can be read directly, as its text comes, or from a document that was looked through
before. The two modes agree on what they accept except in details of variants and arrays, and
refuse some values for different reasons.
-/

namespace PluginSchema.Json

/-- How a value is reached. -/
inductive Mode where
  /-- As its text comes: the first fault of the text ends the reading. -/
  | direct
  /-- From a part of the document that has been looked through before. -/
  | buffered
  deriving DecidableEq

/-- A reader of values: given how many containers it may enter, it reads a node. -/
abbrev Reader (α : Type) := Nat → Node → Reading α

/-- The number of containers that a document may nest. -/
def maxDepth : Nat := 127

/-- Enter a container. -/
def enter : Nat → Reading Nat
  | 0 => .broken .malformed
  | room + 1 => .ok room

mutual

/-- Pass over a value. -/
def Node.skip : Node → Reading Unit
  | .arr items => items.skip
  | .obj members => members.skip
  | .cut gap => .broken gap.loose
  | _ => .ok ()

/-- Pass over the items of an array. -/
def Items.skip : Items → Reading Unit
  | .close => .ok ()
  | .item node rest => do
    node.skip
    rest.skip
  | .stop _ fault => .broken fault

/-- Pass over the members of an object. -/
def Members.skip : Members → Reading Unit
  | .close => .ok ()
  | .member _ node rest => do
    node.skip
    rest.skip
  | .stop _ _ loose => .broken loose

end

mutual

/-- Look through a value that is read later. -/
def Node.lookThrough (room : Nat) : Node → Reading Unit
  | .arr items => do items.lookThrough (← enter room)
  | .obj members => do members.lookThrough (← enter room)
  | .str none => .broken .malformed
  | .num .tooLarge => .broken .malformed
  | .cut gap => .broken gap.strict
  | _ => .ok ()

/-- Look through the items of an array. -/
def Items.lookThrough (room : Nat) : Items → Reading Unit
  | .close => .ok ()
  | .item node rest => do
    node.lookThrough room
    rest.lookThrough room
  | .stop _ fault => .broken fault

/-- Look through the members of an object. -/
def Members.lookThrough (room : Nat) : Members → Reading Unit
  | .close => .ok ()
  | .member none _ _ => .broken .malformed
  | .member (some _) node rest => do
    node.lookThrough room
    rest.lookThrough room
  | .stop _ strict _ => .broken strict

end

variable {α : Type}

/-- Read a truth value. -/
def readBool : Reader Bool
  | _, .bool value => .ok value
  | _, node => node.mismatch "a boolean"

/-- Read a text. -/
def readString : Reader String
  | _, .str (some text) => .ok text
  | _, node => node.mismatch "a string"

/-- Read a number below the size of a type, under the name of the type. -/
def readBelow (size : Nat) (expected : String) : Reader Nat
  | _, .num (.int value) =>
    if 0 ≤ value ∧ value < size then .ok value.toNat
    else .unfit (.outOfRange value expected)
  | _, node => node.mismatch expected

/-- Read a whole number of 64 bits. -/
def readUInt64 : Reader UInt64 := fun room node =>
  return UInt64.ofNat (← readBelow UInt64.size "u64" room node)

/-- Read a whole number of 32 bits. -/
def readUInt32 : Reader UInt32 := fun room node =>
  return UInt32.ofNat (← readBelow UInt32.size "u32" room node)

/-- Read a value or `null`. -/
def readOptional (read : Reader α) : Reader (Option α)
  | _, .null => .ok none
  | _, .cut (.nullWord fault) => .broken fault
  | room, node => return some (← read room node)

/-- Read the items of an array. -/
def readItems (read : Node → Reading α) : Items → Reading (List α)
  | .close => .ok []
  | .item node rest => do
    let first ← read node
    let others ← readItems read rest
    return first :: others
  | .stop _ fault => .broken fault

/-- Read an array. -/
def readList (read : Reader α) : Reader (List α)
  | room, .arr items => do
    let room ← enter room
    readItems (read room) items
  | _, node => node.mismatch "a sequence"

/-- Read the members of an object, with repeated keys. -/
def readMembers (read : Node → Reading α) : Members → Reading (List (String × α))
  | .close => .ok []
  | .member none _ _ => .broken .malformed
  | .member (some key) node rest => do
    let first ← read node
    let others ← readMembers read rest
    return (key, first) :: others
  | .stop _ strict _ => .broken strict

/-- Read an object as a map; the last value given for a key stands. -/
def readMap (read : Reader α) : Reader (NameMap α)
  | room, .obj members => do
    let room ← enter room
    return NameMap.ofList (← readMembers (read room) members)
  | _, node => node.mismatch "a map"

/-- Read the one value of a document. -/
def Document.read (document : Document) (read : Reader α) : Reading α := do
  let value ← read maxDepth document.root
  if document.trailing then .broken .malformed
  return value

/-- Read a text that holds one value. -/
def readText (read : Reader α) (text : String) : Reading α :=
  (Document.ofText text.toList).read read

end PluginSchema.Json
