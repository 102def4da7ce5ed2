import PluginSchema.Json.Reader

/-!
# Records

A record is written as an object of known members, in any order and each at most once; other
members are passed over. It is also read from an array of its fields in their order, where only
the last fields can be left out, if they have a default.

A record may take in the members of another one. Then it is read from an object only, and the
members that are not its own are looked through at once and read at the end.
-/

namespace PluginSchema.Json

variable {α β : Type}

/-- Whether a field may be left out. -/
inductive Presence where
  | required
  /-- It may be left out of an object, but not of an array. -/
  | optional
  /-- It has a default. -/
  | defaulted
  deriving DecidableEq

/-- A field of a record: how a node read for it changes the record. -/
structure RecordField (α : Type) where
  name : String
  presence : Presence := .defaulted
  read : Nat → Node → α → Reading α

/-- A field whose value a reader gives. -/
def RecordField.of {γ : Type} (name : String) (read : Reader γ) (set : α → γ → α) :
    RecordField α where
  name
  read := fun room node record => return set record (← read room node)

/-- A record under construction and the names of the fields that were read for it. -/
structure Progress (α : Type) where
  record : α
  seen : List String := []

/-- The field of a name. -/
def findField (fields : List (RecordField α)) (name : String) : Option (RecordField α) :=
  fields.find? (·.name == name)

/-- Read a node for a field that may not have been read before. -/
def Progress.assign (progress : Progress α) (field : RecordField α) (room : Nat) (node : Node) :
    Reading (Progress α) := do
  if progress.seen.contains field.name then .unfit (.duplicateField field.name)
  let record ← field.read room node progress.record
  return ⟨record, field.name :: progress.seen⟩

/-- The record, if no field is missing that an object must have. -/
def Progress.complete (fields : List (RecordField α)) (progress : Progress α) : Reading α :=
  match fields.find? fun field =>
      field.presence == .required && !progress.seen.contains field.name with
  | some field => .unfit (.missingField field.name)
  | none => .ok progress.record

/-- Read the fields of a record from the members of an object. -/
def readFields (fields : List (RecordField α)) (room : Nat) :
    Progress α → Members → Reading (Progress α)
  | progress, .close => .ok progress
  | _, .member none _ _ => .broken .malformed
  | progress, .member (some key) node rest =>
    match findField fields key with
    | some field => do
      let progress ← progress.assign field room node
      readFields fields room progress rest
    | none => do
      node.skip
      readFields fields room progress rest
  | _, .stop _ strict _ => .broken strict

/-- Accept the end of an array from which all fields of a record were read. -/
def readEnd (mode : Mode) (count : Nat) (items : Items) : Reading Unit :=
  match mode, items with
  | _, .close => .ok ()
  | .direct, .stop false .ended => .broken .ended
  | .direct, _ => .broken .malformed
  | .buffered, items =>
    .unfit (.wrongLength (count + items.length) (toString count ++ " elements in sequence"))

/-- Read the fields of a record from the items of an array, counted from the field `index`. -/
def readFieldItems (mode : Mode) (expected : String) (room : Nat) (index : Nat) :
    List (RecordField α) → α → Items → Reading α
  | [], record, items => do
    readEnd mode index items
    return record
  | field :: fields, record, .item node rest => do
    let record ← field.read room node record
    readFieldItems mode expected room (index + 1) fields record rest
  | field :: fields, record, .close =>
    if field.presence = .defaulted then
      readFieldItems mode expected room (index + 1) fields record .close
    else .unfit (.wrongLength index expected)
  | _ :: _, _, .stop _ fault => .broken fault

/-- Read a record, under the name of its type, from an object or an array. -/
def readRecord (mode : Mode) (title : String) (fields : List (RecordField α)) (empty : α) :
    Reader α
  | room, .obj members => do
    let room ← enter room
    let progress ← readFields fields room ⟨empty, []⟩ members
    progress.complete fields
  | room, .arr items => do
    let room ← enter room
    let expected :=
      "struct " ++ title ++ " with " ++ toString fields.length ++ " elements"
    readFieldItems mode expected room 0 fields empty items
  | _, node => node.mismatch ("struct " ++ title)

/-- Read a record's own fields from the members of an object, and keep the other members, which
are looked through. -/
def readOwnFields (fields : List (RecordField α)) (room : Nat) :
    Progress α → Members → Reading (α × List (String × Node))
  | progress, .close => .ok (progress.record, [])
  | _, .member none _ _ => .broken .malformed
  | progress, .member (some key) node rest =>
    match findField fields key with
    | some field => do
      let progress ← progress.assign field room node
      readOwnFields fields room progress rest
    | none => do
      node.lookThrough room
      let (record, others) ← readOwnFields fields room progress rest
      return (record, (key, node) :: others)
  | _, .stop _ strict _ => .broken strict

/-- Read the fields of a record from members that were kept; unknown ones are left alone. -/
def readKeptFields (fields : List (RecordField β)) (room : Nat) :
    Progress β → List (String × Node) → Reading β
  | progress, [] => .ok progress.record
  | progress, (key, node) :: rest =>
    match findField fields key with
    | some field => do
      let progress ← progress.assign field room node
      readKeptFields fields room progress rest
    | none => readKeptFields fields room progress rest

/-- Read a record that takes in the members of another one, where each field of both has a
default. -/
def readMerged (title : String) (own : List (RecordField α)) (empty : α)
    (taken : List (RecordField β)) (emptyTaken : β) : Reader (α × β)
  | room, .obj members => do
    let room ← enter room
    let (record, others) ← readOwnFields own room ⟨empty, []⟩ members
    let inner ← readKeptFields taken room ⟨emptyTaken, []⟩ others
    return (record, inner)
  | _, node => node.mismatch ("struct " ++ title)

end PluginSchema.Json
