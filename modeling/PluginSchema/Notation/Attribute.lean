import PluginSchema.Attribute
import PluginSchema.Json.Record
import PluginSchema.Notation.AttributeType

/-!
# Attributes as JSON

The flags of an attribute stand among its own members. All flags are written, and texts, types
and groups only if they are there.
-/

namespace PluginSchema

open Json (RecordField Mode Reader Value Variant)

namespace NestingMode

/-- The name of a nesting mode. -/
def name : NestingMode → String
  | single => "single"
  | list => "list"
  | set => "set"
  | map => "map"

/-- The JSON of a nesting mode. -/
def toJson (nesting : NestingMode) : Value := .str nesting.name

/-- The nesting modes by their names. -/
def variants : List (String × Variant NestingMode) :=
  [single, list, set, map].map fun nesting => (nesting.name, .bare nesting)

/-- Read a nesting mode. -/
def read (mode : Mode) : Reader NestingMode := Json.readVariant mode variants

end NestingMode

namespace Flags

/-- The members that hold flags. -/
def members (flags : Flags) : List (String × Value) := [
  ("required", .bool flags.required),
  ("optional", .bool flags.optional),
  ("computed", .bool flags.computed),
  ("sensitive", .bool flags.sensitive)]

/-- The JSON of flags that stand alone. -/
def toJson (flags : Flags) : Value := .obj flags.members

/-- The fields of flags; each is unset by default. -/
def fields : List (RecordField Flags) := [
  .of "required" Json.readBool fun flags value => { flags with required := value },
  .of "optional" Json.readBool fun flags value => { flags with optional := value },
  .of "computed" Json.readBool fun flags value => { flags with computed := value },
  .of "sensitive" Json.readBool fun flags value => { flags with sensitive := value }]

/-- Read flags that stand alone. -/
def read (mode : Mode) : Reader Flags := Json.readRecord mode "AttributeFlags" fields {}

end Flags

namespace Documentation

/-- The members that hold texts. -/
def members (texts : Documentation) : List (String × Value) :=
  Value.optional "description" .str texts.description
    ++ Value.optional "markdown_description" .str texts.markdown
    ++ Value.optional "deprecation_message" .str texts.deprecation

/-- The fields for texts of a record that has them. -/
def fields {α : Type} (change : (Documentation → Documentation) → α → α) :
    List (RecordField α) := [
  .of "description" (Json.readOptional Json.readString)
    fun record text => change (fun texts => { texts with description := text }) record,
  .of "markdown_description" (Json.readOptional Json.readString)
    fun record text => change (fun texts => { texts with markdown := text }) record,
  .of "deprecation_message" (Json.readOptional Json.readString)
    fun record text => change (fun texts => { texts with deprecation := text }) record]

end Documentation

namespace Group

/-- The members of a group whose attributes are written already. -/
def members {α : Type} (group : Group α) (attributes : List (String × Value)) :
    List (String × Value) := [
  ("nesting_mode", group.mode.toJson),
  ("attributes", .obj attributes),
  ("min_items", .int group.minItems.toNat),
  ("max_items", .int group.maxItems.toNat)]

/-- The fields of a group; each has a default. -/
def fields {α : Type} (mode : Mode) (child : Reader α) : List (RecordField (Group α)) := [
  .of "nesting_mode" (NestingMode.read mode) fun group value => { group with mode := value },
  .of "attributes" (Json.readMap child) fun group value => { group with attributes := value },
  .of "min_items" Json.readUInt64 fun group value => { group with minItems := value },
  .of "max_items" Json.readUInt64 fun group value => { group with maxItems := value }]

/-- Read a group, given a reader for its attributes. -/
def read {α : Type} (mode : Mode) (child : Reader α) : Reader (Group α) :=
  Json.readRecord mode "NestedAttributes" (fields mode child) {}

end Group

namespace Attribute

mutual

/-- The JSON of an attribute. -/
def toJson : Attribute → Value
  | ⟨type, none, flags, texts⟩ =>
    .obj (Value.optional "type" AttributeType.toJson type ++ flags.members ++ texts.members)
  | ⟨type, some ⟨mode, children, low, high⟩, flags, texts⟩ =>
    .obj (Value.optional "type" AttributeType.toJson type
      ++ [("nested", .obj ((⟨mode, children, low, high⟩ : Group Attribute).members
            (allToJson children)))]
      ++ flags.members ++ texts.members)

/-- The JSON of named attributes. -/
def allToJson : List (String × Attribute) → List (String × Value)
  | [] => []
  | (name, a) :: rest => (name, a.toJson) :: allToJson rest

end

/-- An attribute's own fields, given a reader for the attributes nested in it. -/
def fields (mode : Mode) (child : Reader Attribute) : List (RecordField Attribute) := [
  .of "type" (Json.readOptional (AttributeType.read mode))
    fun a value => { a with type? := value },
  .of "nested" (Json.readOptional (Group.read mode child))
    fun a value => { a with nested := value }]
  ++ Documentation.fields fun change a => { a with documentation := change a.documentation }

/-- Read an attribute in which attributes nest fewer than so many levels deep. -/
def readWithin (mode : Mode) : Nat → Reader Attribute
  | 0 => fun _ _ => .broken .malformed
  | levels + 1 => fun room node => do
    let (a, flags) ←
      Json.readMerged "Attribute" (fields mode (readWithin mode levels)) {} Flags.fields {}
        room node
    return { a with flags }

/-- Read an attribute. Each attribute in it stands in containers of its own, so there are no more
levels than containers. -/
def read (mode : Mode) : Reader Attribute := fun room => readWithin mode (room + 1) room

/-- Read a group that stands alone. -/
def readGroup (mode : Mode) : Reader (Group Attribute) := Group.read mode (read mode)

/-- The JSON of a group that stands alone. -/
def groupToJson (group : Group Attribute) : Value :=
  .obj (group.members (allToJson group.attributes))

end Attribute

end PluginSchema
