import PluginSchema.Proofs.Conversion.Authored
import PluginSchema.Proofs.Conversion.Carried
import PluginSchema.Proofs.Conversion.SchemaResult

/-!
# Normal forms of schemas

The normal form of a schema keeps what its author can tell a reader of the wire and drops the
rest: one type of number, no empty groups, bounds and versions up to the greatest number of the
wire, no bounds where nothing is counted, the one description that is shown, and of a deprecation
only that there is one. The rules are written down here without the wire; part by part, two
authored values have one form on the wire exactly if they have one normal form.
-/

namespace PluginSchema

/-- A number, cut off at the greatest one that has a sign. -/
def capped (n : UInt64) : UInt64 := min n 9223372036854775807

namespace AttributeType

mutual

/-- A type with every number in it a plain number. -/
def normal : AttributeType → AttributeType
  | string => .string
  | number | int64 | float64 => .number
  | bool => .bool
  | dynamic => .dynamic
  | list element => .list element.normal
  | set element => .set element.normal
  | map element => .map element.normal
  | object fields => .object (normalFields fields)

/-- Fields with every number in their types a plain number. -/
def normalFields : List (String × AttributeType) → List (String × AttributeType)
  | [] => []
  | (name, type) :: rest => (name, type.normal) :: normalFields rest

end

end AttributeType

namespace Normal

/-- The text that is shown with its format, if there is one, and whether there is a deprecation. -/
@[ext] structure Documentation where
  description : Option (String × Wire.StringKind)
  deprecated : Bool
  deriving DecidableEq

/-- An attribute in normal form. -/
structure Attribute where
  type? : Option AttributeType
  group : Option (Group Attribute)
  flags : Flags
  documentation : Documentation

/-- A block in normal form. -/
structure Block where
  attributes : List (String × Attribute)
  documentation : Documentation

/-- A schema in normal form. -/
structure Schema where
  version : UInt64
  block : Block

end Normal

/-- Markdown is shown before plain text, and an empty text counts as none. -/
def Documentation.normal (texts : Documentation) : Normal.Documentation where
  description :=
    ((texts.markdown.filter (· ≠ "")).map fun text => (text, .markdown)).or
      ((texts.description.filter (· ≠ "")).map fun text => (text, .plain))
  deprecated := texts.deprecation.any (· ≠ "")

/-- A group with other attributes, where lists and sets keep their bounds up to the cut, and
nothing else has any. -/
def Group.normal {α β : Type} (group : Group α) (attributes : List (String × β)) : Group β where
  mode := group.mode
  attributes
  minItems := if group.mode = .list ∨ group.mode = .set then capped group.minItems else 0
  maxItems := if group.mode = .list ∨ group.mode = .set then capped group.maxItems else 0

namespace Attribute

mutual

/-- The normal form of an attribute and of all attributes nested in it. -/
def normal : Attribute → Normal.Attribute
  | ⟨type, none, flags, texts⟩ => ⟨type.map .normal, none, flags, texts.normal⟩
  | ⟨type, some ⟨_, [], _, _⟩, flags, texts⟩ => ⟨type.map .normal, none, flags, texts.normal⟩
  | ⟨type, some ⟨mode, first :: rest, low, high⟩, flags, texts⟩ =>
    ⟨type.map .normal,
      some ((⟨mode, first :: rest, low, high⟩ : Group Attribute).normal
        (normalAll (first :: rest))),
      flags, texts.normal⟩

/-- The normal forms of named attributes. -/
def normalAll : List (String × Attribute) → List (String × Normal.Attribute)
  | [] => []
  | (name, a) :: rest => (name, a.normal) :: normalAll rest

end

/-- The normal form of an attribute is put together from those of its parts. -/
theorem normal_eq (a : Attribute) :
    a.normal = ⟨a.type?.map .normal,
      a.group?.map fun group => group.normal (normalAll a.children),
      a.flags, a.documentation.normal⟩ := by
  rcases a with ⟨type, _ | ⟨mode, _ | ⟨first, rest⟩, low, high⟩, flags, texts⟩ <;> rfl

end Attribute

/-- The normal form of a block. -/
def Block.normal (block : Block) : Normal.Block where
  attributes := Attribute.normalAll block.attributes
  documentation := block.documentation.normal

/-- The normal form of a schema. -/
def Schema.normal (schema : Schema) : Normal.Schema where
  version := capped schema.version
  block := schema.block.normal

/-- Two numbers are one on the wire exactly if they are one when cut off. -/
theorem saturated_eq_iff {m n : UInt64} : saturated m = saturated n ↔ capped m = capped n := by
  have toNat_capped (k : UInt64) : (capped k).toNat = min k.toNat (2 ^ 63 - 1) := by
    unfold capped
    rw [UInt64.toNat_min]
    rfl
  rw [← Int64.toInt_inj, ← UInt64.toNat_inj, toInt_saturated, toInt_saturated, toNat_capped,
    toNat_capped]
  omega

namespace AttributeType

mutual

/-- What is authored for the wire type of a type is its normal form. -/
theorem authored_toWire : (type : AttributeType) → type.toWire.authored = type.normal
  | string | number | int64 | float64 | bool | dynamic => rfl
  | list element | set element | map element => by
    simp [toWire, normal, Wire.ValueType.authored, authored_toWire element]
  | object fields => by
    simp [toWire, normal, Wire.ValueType.authored, authoredFields_toWire fields]

theorem authoredFields_toWire : (fields : List (String × AttributeType)) →
    Wire.ValueType.authoredFields (fieldsToWire fields) = normalFields fields
  | [] => rfl
  | (_, type) :: rest => by
    simp [fieldsToWire, normalFields, Wire.ValueType.authoredFields, authored_toWire type,
      authoredFields_toWire rest]

end

/-- Two types are one on the wire exactly if their normal forms are. -/
theorem toWire_eq_iff {type other : AttributeType} :
    type.toWire = other.toWire ↔ type.normal = other.normal := by
  rw [← authored_toWire, ← authored_toWire]
  refine ⟨fun h => by rw [h], fun h => ?_⟩
  rw [← Wire.ValueType.toWire_authored type.toWire, h, Wire.ValueType.toWire_authored]

end AttributeType

namespace Documentation

/-- A text is shown with its format, or there is neither. -/
theorem toWire_eq (texts : Documentation) :
    texts.toWire = match texts.normal.description with
      | some (text, kind) => ⟨text, some kind⟩
      | none => ⟨"", none⟩ := by
  unfold toWire resolve normal
  cases texts.markdown.filter (· ≠ "") <;> cases texts.description.filter (· ≠ "") <;> rfl

/-- The texts of two authors are one description on the wire exactly if one text is shown. -/
theorem toWire_eq_iff {texts other : Documentation} :
    texts.toWire = other.toWire ↔ texts.normal.description = other.normal.description := by
  rw [toWire_eq, toWire_eq]
  rcases texts.normal.description with _ | ⟨text, kind⟩ <;>
    rcases other.normal.description with _ | ⟨text', kind'⟩ <;> simp

/-- A deprecation is told exactly if it is part of the normal form. -/
theorem isDeprecated_eq (texts : Documentation) :
    texts.isDeprecated = texts.normal.deprecated := by
  unfold isDeprecated normal
  cases texts.deprecation <;> simp [Option.filter]
  split <;> simp_all

/-- The texts of two authors have one normal form exactly if they are one on the wire. -/
theorem normal_eq_iff (texts other : Documentation) :
    texts.normal = other.normal ↔
      texts.toWire = other.toWire ∧ texts.isDeprecated = other.isDeprecated := by
  rw [toWire_eq_iff, isDeprecated_eq, isDeprecated_eq, Normal.Documentation.ext_iff]

end Documentation

namespace Group

variable {group other : Group Attribute} {nested nested' : List Wire.Attribute}
  {attributes attributes' : List (String × Normal.Attribute)}

/-- Two groups are one object on the wire exactly if their normal forms are, if this is so for
the attributes in them. -/
theorem toWire_eq_iff (h : nested = nested' ↔ attributes = attributes') :
    group.toWire nested = other.toWire nested' ↔
      group.normal attributes = other.normal attributes' := by
  simp only [toWire, normal, Wire.Object.mk.injEq, Group.mk.injEq, h]
  by_cases hmode : group.mode = other.mode
  · unfold bound
    rw [← hmode]
    cases group.mode <;> simp [saturated_eq_iff]
  · simp [hmode]

end Group

end PluginSchema
