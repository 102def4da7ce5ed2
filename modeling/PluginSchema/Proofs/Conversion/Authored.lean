import PluginSchema.Proofs.Conversion.Result
import PluginSchema.Proofs.Records

/-!
# Writing a record back as an attribute

For every record there is an attribute to author so that conversion can give the record back. Of
the choices that conversion forgets it takes the plainest: a number is just a number, a
description is given in its own format only, and a deprecation gets some message.
-/

namespace PluginSchema

namespace Wire.ValueType

mutual

/-- A type that the wire type stands for. -/
def authored : Wire.ValueType → AttributeType
  | string => .string
  | number => .number
  | bool => .bool
  | dynamic => .dynamic
  | list element => .list element.authored
  | set element => .set element.authored
  | map element => .map element.authored
  | object fields => .object (authoredFields fields)

/-- The types of fields that wire types stand for, under the same names. -/
def authoredFields : List (String × Wire.ValueType) → List (String × AttributeType)
  | [] => []
  | (name, type) :: rest => (name, type.authored) :: authoredFields rest

end

mutual

/-- A wire type stands for the type that is authored for it. -/
theorem toWire_authored : (type : Wire.ValueType) → type.authored.toWire = type
  | string | number | bool | dynamic => rfl
  | list element | set element | map element => by
    simp [authored, AttributeType.toWire, toWire_authored element]
  | object fields => by simp [authored, AttributeType.toWire, fieldsToWire_authoredFields fields]

theorem fieldsToWire_authoredFields :
    (fields : List (String × Wire.ValueType)) →
      AttributeType.fieldsToWire (authoredFields fields) = fields
  | [] => rfl
  | (name, type) :: rest => by
    simp [authoredFields, AttributeType.fieldsToWire, toWire_authored type,
      fieldsToWire_authoredFields rest]

end

theorem authoredFields_eq_map (fields : List (String × Wire.ValueType)) :
    authoredFields fields = fields.map fun field => (field.1, field.2.authored) := by
  induction fields with
  | nil => rfl
  | cons field rest ih => rw [authoredFields, ih, List.map_cons]

/-- What is authored for an ordered type is ordered. -/
theorem Ordered.authored {type : Wire.ValueType} (h : type.Ordered) : type.authored.Ordered := by
  induction h with
  | string => exact .string
  | number => exact .number
  | bool => exact .bool
  | dynamic => exact .dynamic
  | list _ ih => exact .list ih
  | set _ ih => exact .set ih
  | map _ ih => exact .map ih
  | object ascending _ ih =>
    rw [ValueType.authored, authoredFields_eq_map]
    refine .object (List.pairwise_map.mpr ascending) ?_
    rintro _ hfield
    obtain ⟨field, hmem, rfl⟩ := List.mem_map.mp hfield
    exact ih field hmem

end Wire.ValueType

namespace AttributeType

theorem fieldsToWire_eq_map (fields : List (String × AttributeType)) :
    fieldsToWire fields = fields.map fun field => (field.1, field.2.toWire) := by
  induction fields with
  | nil => rfl
  | cons field rest ih => rw [fieldsToWire, ih, List.map_cons]

/-- The wire type of an ordered type is ordered. -/
theorem Ordered.toWire {type : AttributeType} (h : type.Ordered) : type.toWire.Ordered := by
  induction h with
  | string => exact .string
  | number | int64 | float64 => exact .number
  | bool => exact .bool
  | dynamic => exact .dynamic
  | list _ ih => exact .list ih
  | set _ ih => exact .set ih
  | map _ ih => exact .map ih
  | object ascending _ ih =>
    rw [AttributeType.toWire, fieldsToWire_eq_map]
    refine .object (List.pairwise_map.mpr ascending) ?_
    rintro _ hfield
    obtain ⟨field, hmem, rfl⟩ := List.mem_map.mp hfield
    exact ih field hmem

end AttributeType

/-- The texts that a description stands for, and a message if there is a deprecation. -/
def Wire.Description.authored (description : Wire.Description) (deprecated : Bool) :
    Documentation where
  description := if description.kind = some .plain then some description.text else none
  markdown := if description.kind = some .markdown then some description.text else none
  deprecation := if deprecated then some "deprecated" else none

/-- A description with a format exactly if it has a text stands for what is authored for it. -/
theorem Wire.Description.toWire_authored {description : Wire.Description} (deprecated : Bool)
    (h : description.kind = none ↔ description.text = "") :
    (description.authored deprecated).toWire = description := by
  rcases description with ⟨text, _ | _ | _⟩
  · obtain rfl : text = "" := h.mp rfl
    rfl
  · have hne : text ≠ "" := fun htext => by cases h.mpr htext
    simp [authored, Documentation.toWire, Documentation.resolve, hne, Option.filter]
  · have hne : text ≠ "" := fun htext => by cases h.mpr htext
    simp [authored, Documentation.toWire, Documentation.resolve, hne, Option.filter]

/-- Just a deprecation is authored as one. -/
theorem Wire.Description.isDeprecated_authored (description : Wire.Description)
    (deprecated : Bool) : (description.authored deprecated).isDeprecated = deprecated := by
  cases deprecated <;> rfl

/-- A number of the wire that is not negative comes back from the author's numbers. -/
theorem saturated_toUInt64 {n : Int64} (h : 0 ≤ n.toInt) : saturated n.toUInt64 = n := by
  have hle : (0 : Int64) ≤ n := by simpa [Int64.le_iff_toInt_le] using h
  have hlt := n.toInt_lt
  rw [← Int64.toInt_inj, toInt_saturated, Int64.toNat_toUInt64_of_le hle, ← Int64.toNat_toInt]
  omega

namespace Wire.Attribute

mutual

/-- An attribute to author for a record. -/
def authored : Wire.Attribute → PluginSchema.Attribute
  | ⟨_, type, none, description, flags, deprecated⟩ =>
    ⟨type.map ValueType.authored, none, flags, description.authored deprecated⟩
  | ⟨_, type, some ⟨attributes, nesting, low, high⟩, description, flags, deprecated⟩ =>
    ⟨type.map ValueType.authored,
      some ⟨nesting, authoredAll attributes, low.toUInt64, high.toUInt64⟩, flags,
      description.authored deprecated⟩

/-- The attributes to author for records, under their names. -/
def authoredAll : List Wire.Attribute → List (String × PluginSchema.Attribute)
  | [] => []
  | first :: rest => (first.name, first.authored) :: authoredAll rest

end

theorem authoredAll_eq_map (records : List Wire.Attribute) :
    authoredAll records = records.map fun record => (record.name, record.authored) := by
  induction records with
  | nil => rfl
  | cons first rest ih => rw [authoredAll, ih, List.map_cons]

/-- What is authored for the records below a record stands below what is authored for it. -/
theorem children_authored (record : Wire.Attribute) :
    record.authored.children = record.children.map fun child => (child.name, child.authored) := by
  rcases record with
    ⟨name, type, _ | ⟨attributes, nesting, low, high⟩, description, flags, deprecated⟩
  · rfl
  · rw [authored, PluginSchema.Attribute.children_of_nested_some, authoredAll_eq_map]
    rfl

@[simp] theorem type?_authored (record : Wire.Attribute) :
    record.authored.type? = record.type?.map ValueType.authored := by
  rcases record with ⟨name, type, _ | _, description, flags, deprecated⟩ <;> rfl

@[simp] theorem flags_authored (record : Wire.Attribute) :
    record.authored.flags = record.flags := by
  rcases record with ⟨name, type, _ | _, description, flags, deprecated⟩ <;> rfl

@[simp] theorem documentation_authored (record : Wire.Attribute) :
    record.authored.documentation = record.description.authored record.deprecated := by
  rcases record with ⟨name, type, _ | _, description, flags, deprecated⟩ <;> rfl

/-- A group is authored for each object that is not empty. -/
theorem group?_authored {record : Wire.Attribute}
    (h : ∀ object, record.nested = some object → object.attributes ≠ []) :
    record.authored.group? = record.nested.map fun object =>
      ⟨object.nesting, authoredAll object.attributes, object.minItems.toUInt64,
        object.maxItems.toUInt64⟩ := by
  rcases record with
    ⟨name, type, _ | ⟨_ | ⟨first, rest⟩, nesting, low, high⟩, description, flags, deprecated⟩
  · rfl
  · exact absurd rfl (h _ rfl)
  · rfl

end Wire.Attribute

end PluginSchema
