import PluginSchema.Proofs.Protobuf.Fields
import PluginSchema.Protobuf.Encode

/-!
# The layouts of messages

What each message puts under its numbers. The layout of a message shows all its parts, since a
part that is left out is the default one, and the bytes of a message show its layout. So no two
messages have the same bytes, whatever is nested in them.
-/

namespace PluginSchema

namespace Protobuf.Payload

/-- The payload of a number of 64 bits, which is left out if it is zero. -/
def ofUInt64 (value : UInt64) : List Payload := if value = 0 then [] else [.varint value.toNat]

/-- The payload of a signed number of 64 bits. -/
def ofInt64 (value : Int64) : List Payload := ofUInt64 value.toUInt64

/-- The payload of the number of an enumeration's value. -/
def ofEnum (value : Int32) : List Payload := ofInt64 value.toInt64

/-- The payload of a truth value. -/
def ofBool (value : Bool) : List Payload := ofUInt64 value.toUInt64

/-- The payload of bytes, which are left out if there are none. -/
def ofBytes (value : Bytes) : List Payload := if value = [] then [] else [.bytes value]

/-- The payload of a text. -/
def ofString (value : String) : List Payload := ofBytes (utf8 value)

@[simp] theorem ofUInt64_inj {value other : UInt64} :
    ofUInt64 value = ofUInt64 other ↔ value = other := by
  refine ⟨fun h => ?_, fun h => h ▸ rfl⟩
  unfold ofUInt64 at h
  split at h <;> split at h <;> simp_all [UInt64.toNat_inj]

@[simp] theorem ofInt64_inj {value other : Int64} :
    ofInt64 value = ofInt64 other ↔ value = other := by
  rw [ofInt64, ofInt64, ofUInt64_inj]
  exact ⟨congrArg Int64.ofUInt64, congrArg Int64.toUInt64⟩

@[simp] theorem ofEnum_inj {value other : Int32} : ofEnum value = ofEnum other ↔ value = other := by
  rw [ofEnum, ofEnum, ofInt64_inj, ← Int64.toInt_inj, Int32.toInt_toInt64, Int32.toInt_toInt64,
    Int32.toInt_inj]

@[simp] theorem ofBool_inj {value other : Bool} : ofBool value = ofBool other ↔ value = other := by
  rw [ofBool, ofBool, ofUInt64_inj]
  cases value <;> cases other <;> decide

@[simp] theorem ofBytes_inj {value other : Bytes} :
    ofBytes value = ofBytes other ↔ value = other := by
  refine ⟨fun h => ?_, fun h => h ▸ rfl⟩
  unfold ofBytes at h
  split at h <;> split at h <;> simp_all

/-- The bytes of a text show the text. -/
theorem utf8_inj {text other : String} : utf8 text = utf8 other ↔ text = other := by
  rw [utf8, utf8, Array.toList_inj, ← ByteArray.ext_iff, String.toByteArray_inj]

@[simp] theorem ofString_inj {value other : String} :
    ofString value = ofString other ↔ value = other := by
  rw [ofString, ofString, ofBytes_inj, utf8_inj]

/-- What is written of a value is a number or bytes. -/
theorem written_ofUInt64 (value : UInt64) : ∀ payload ∈ ofUInt64 value, payload.Written := by
  unfold ofUInt64
  split <;> simp [Written]

theorem written_ofBytes (value : Bytes) : ∀ payload ∈ ofBytes value, payload.Written := by
  unfold ofBytes
  split <;> simp [Written]

/-- Inner messages are written. -/
theorem written_map_bytes (values : List Bytes) :
    ∀ payload ∈ values.map bytes, payload.Written := by
  simp [Written]

end Protobuf.Payload

namespace Protobuf.Layout

open Payload (ofUInt64 ofInt64 ofEnum ofBool ofBytes ofString)

theorem write_nil : write [] = [] := rfl

theorem write_cons (number : Nat) (payloads : List Payload) (rest : Layout) :
    write ((number, payloads) :: rest) =
      WireField.writeAll (payloads.map (WireField.mk number)) ++ rest.write := by
  rw [write, fields_cons, WireField.writeAll, List.flatMap_append]
  rfl

theorem uint64Field_eq (number : Nat) (value : UInt64) :
    uint64Field number value = WireField.writeAll ((ofUInt64 value).map (WireField.mk number)) := by
  unfold uint64Field ofUInt64
  split <;> simp [WireField.writeAll, WireField.write]

theorem delimitedFields_eq (number : Nat) (values : List Bytes) :
    values.flatMap (delimitedField number) =
      WireField.writeAll ((values.map Payload.bytes).map (WireField.mk number)) := by
  simp [WireField.writeAll, WireField.write, List.flatMap_map]

theorem bytesField_eq (number : Nat) (value : Bytes) :
    bytesField number value = WireField.writeAll ((ofBytes value).map (WireField.mk number)) := by
  unfold bytesField ofBytes
  cases value <;> simp [WireField.writeAll, WireField.write]

end Protobuf.Layout

namespace Message

open Protobuf
open Payload (ofUInt64 ofInt64 ofEnum ofBool ofBytes ofString)

/-- The layout of an object whose attributes are bytes already. -/
def Object.layout {α : Type} (object : Object α) (attributes : List Bytes) : Layout := [
  (1, attributes.map .bytes),
  (3, ofEnum object.nesting),
  (4, ofInt64 object.minItems),
  (5, ofInt64 object.maxItems)]

/-- The layout of an attribute. -/
def Attribute.layout (a : Attribute) : Layout := [
  (1, ofString a.name),
  (2, ofBytes a.type),
  (3, ofString a.description),
  (4, ofBool a.flags.required),
  (5, ofBool a.flags.optional),
  (6, ofBool a.flags.computed),
  (7, ofBool a.flags.sensitive),
  (8, ofEnum a.kind),
  (9, ofBool a.deprecated),
  (10, (a.nested.toList.map Object.encode).map .bytes)]

/-- The layout of a block. -/
def Block.layout (block : Block) : Layout := [
  (1, ofInt64 block.version),
  (2, (block.attributes.map Attribute.encode).map .bytes),
  (4, ofString block.description),
  (5, ofEnum block.kind),
  (6, ofBool block.deprecated)]

/-- The layout of a schema. -/
def Schema.layout (schema : Schema) : Layout := [
  (1, ofInt64 schema.version),
  (2, (schema.block.toList.map Block.encode).map .bytes)]

/-- A repeated field has the bytes of each attribute. -/
theorem Attribute.encodeAll_eq (number : Nat) (attributes : List Attribute) :
    encodeAll number attributes = (attributes.map encode).flatMap (delimitedField number) := by
  induction attributes with
  | nil => rfl
  | cons a rest ih => rw [encodeAll, ih, List.map_cons, List.flatMap_cons]

/-- A field with an inner message has its bytes, if it is there. -/
theorem optionalField_eq {α : Type} (number : Nat) (encode : α → Bytes) (value : Option α) :
    optionalField number encode value =
      (value.toList.map encode).flatMap (delimitedField number) := by
  cases value <;> simp [optionalField]

/-- The bytes of an object are those of its layout. -/
theorem Object.encode_eq (object : Object Attribute) :
    object.encode = (object.layout (object.attributes.map Attribute.encode)).write := by
  simp only [encode, layout, Attribute.encodeAll_eq, enumField, int64Field, ofEnum, ofInt64,
    Layout.write_cons, Layout.write_nil, Layout.uint64Field_eq, Layout.delimitedFields_eq,
    List.append_nil, List.append_assoc]

/-- The bytes of an attribute are those of its layout. -/
theorem Attribute.encode_eq (a : Attribute) : a.encode = a.layout.write := by
  have hfields : a.encode = stringField 1 a.name ++ bytesField 2 a.type
      ++ stringField 3 a.description ++ boolField 4 a.flags.required
      ++ boolField 5 a.flags.optional ++ boolField 6 a.flags.computed
      ++ boolField 7 a.flags.sensitive ++ enumField 8 a.kind ++ boolField 9 a.deprecated
      ++ optionalField 10 Object.encode a.nested := by
    rcases a with ⟨name, type, _ | ⟨attributes, nesting, low, high⟩, description, flags, kind,
      deprecated⟩ <;> rfl
  simp only [hfields, layout, optionalField_eq, stringField, boolField, enumField, int64Field,
    ofString, ofBool, ofEnum, ofInt64, Layout.write_cons, Layout.write_nil, Layout.uint64Field_eq,
    Layout.bytesField_eq, Layout.delimitedFields_eq, List.append_nil, List.append_assoc]

/-- The bytes of a block are those of its layout. -/
theorem Block.encode_eq (block : Block) : block.encode = block.layout.write := by
  simp only [encode, layout, Attribute.encodeAll_eq, stringField, boolField, enumField, int64Field,
    ofString, ofBool, ofEnum, ofInt64, Layout.write_cons, Layout.write_nil, Layout.uint64Field_eq,
    Layout.bytesField_eq, Layout.delimitedFields_eq, List.append_nil, List.append_assoc]

/-- The bytes of a schema are those of its layout. -/
theorem Schema.encode_eq (schema : Schema) : schema.encode = schema.layout.write := by
  simp only [encode, layout, optionalField_eq, int64Field, ofInt64, Layout.write_cons,
    Layout.write_nil, Layout.uint64Field_eq, Layout.delimitedFields_eq, List.append_nil]

/-- The layout of an object has a part for each field of an object. -/
theorem Object.fills_layout {α : Type} (object : Object α) (attributes : List Bytes) :
    Layout.Fills [1, 3, 4, 5] (object.layout attributes) :=
  .cons (Payload.written_map_bytes _) <| .cons (Payload.written_ofUInt64 _) <|
  .cons (Payload.written_ofUInt64 _) <| .cons (Payload.written_ofUInt64 _) .nil

/-- The layout of an attribute has a part for each field of an attribute. -/
theorem Attribute.fills_layout (a : Attribute) :
    Layout.Fills [1, 2, 3, 4, 5, 6, 7, 8, 9, 10] a.layout :=
  .cons (Payload.written_ofBytes _) <| .cons (Payload.written_ofBytes _) <|
  .cons (Payload.written_ofBytes _) <| .cons (Payload.written_ofUInt64 _) <|
  .cons (Payload.written_ofUInt64 _) <| .cons (Payload.written_ofUInt64 _) <|
  .cons (Payload.written_ofUInt64 _) <| .cons (Payload.written_ofUInt64 _) <|
  .cons (Payload.written_ofUInt64 _) <| .cons (Payload.written_map_bytes _) .nil

/-- The layout of a block has a part for each field of a block. -/
theorem Block.fills_layout (block : Block) : Layout.Fills [1, 2, 4, 5, 6] block.layout :=
  .cons (Payload.written_ofUInt64 _) <| .cons (Payload.written_map_bytes _) <|
  .cons (Payload.written_ofBytes _) <| .cons (Payload.written_ofUInt64 _) <|
  .cons (Payload.written_ofUInt64 _) .nil

/-- The layout of a schema has a part for each field of a schema. -/
theorem Schema.fills_layout (schema : Schema) : Layout.Fills [1, 2] schema.layout :=
  .cons (Payload.written_ofUInt64 _) <| .cons (Payload.written_map_bytes _) .nil

/-- Optional inner messages with the same bytes are one, if this is so where they are there. -/
theorem eq_of_map_toList_eq {α : Type} {encode : α → Bytes} {value other : Option α}
    (hencode : ∀ x ∈ value, ∀ y ∈ other, encode x = encode y → x = y)
    (h : value.toList.map encode = other.toList.map encode) : value = other := by
  cases value with
  | none =>
    cases other with
    | none => rfl
    | some y => cases h
  | some x =>
    cases other with
    | none => cases h
    | some y => rw [hencode x rfl y rfl (List.cons.inj h).1]

/-- Two objects with the same bytes are one, if this is so for the attributes in them. -/
theorem Object.eq_of_encode_eq {object other : Object Attribute}
    (hattributes : object.attributes.map Attribute.encode = other.attributes.map Attribute.encode →
      object.attributes = other.attributes)
    (h : object.encode = other.encode) : object = other := by
  rw [encode_eq, encode_eq] at h
  have hlayout := (object.fills_layout _).eq_of_write_eq (other.fills_layout _) (by decide) h
  simp only [layout, List.cons.injEq, Prod.mk.injEq, true_and, and_true,
    List.map_inj_right fun _ _ => Payload.bytes.inj, Payload.ofEnum_inj, Payload.ofInt64_inj]
    at hlayout
  rcases object with ⟨attributes, nesting, low, high⟩
  rcases other with ⟨attributes', nesting', low', high'⟩
  obtain ⟨hencoded, hnesting, hlow, hhigh⟩ := hlayout
  rw [Object.mk.injEq]
  exact ⟨hattributes hencoded, hnesting, hlow, hhigh⟩

/-- Two attributes with the same bytes are one, if this is so for the objects in them. -/
theorem Attribute.eq_of_encode_eq {a b : Attribute}
    (hnested : ∀ object ∈ a.nested, ∀ other ∈ b.nested, object.encode = other.encode →
      object = other)
    (h : a.encode = b.encode) : a = b := by
  rw [encode_eq, encode_eq] at h
  have hlayout := a.fills_layout.eq_of_write_eq b.fills_layout (by decide) h
  simp only [layout, List.cons.injEq, Prod.mk.injEq, true_and, and_true,
    List.map_inj_right fun _ _ => Payload.bytes.inj, Payload.ofString_inj, Payload.ofBytes_inj,
    Payload.ofBool_inj, Payload.ofEnum_inj] at hlayout
  rcases a with ⟨name, type, nested, description, ⟨required, optional, computed, sensitive⟩, kind,
    deprecated⟩
  rcases b with ⟨name', type', nested', description',
    ⟨required', optional', computed', sensitive'⟩, kind', deprecated'⟩
  obtain ⟨hname, htype, hdescription, hrequired, hoptional, hcomputed, hsensitive, hkind,
    hdeprecated, hencoded⟩ := hlayout
  rw [Attribute.mk.injEq, Flags.mk.injEq]
  exact ⟨hname, htype, eq_of_map_toList_eq hnested hencoded, hdescription,
    ⟨hrequired, hoptional, hcomputed, hsensitive⟩, hkind, hdeprecated⟩

mutual

/-- The bytes of an attribute show the attribute. -/
theorem Attribute.encode_inj : (a b : Attribute) → a.encode = b.encode → a = b
  | ⟨name, type, none, description, flags, kind, deprecated⟩, b, h =>
    eq_of_encode_eq (by simp) h
  | ⟨name, type, some ⟨attributes, nesting, low, high⟩, description, flags, kind, deprecated⟩, b,
      h => by
    refine eq_of_encode_eq ?_ h
    rintro object ⟨⟩ other -
    exact Object.eq_of_encode_eq (eq_of_map_encode_eq attributes other.attributes)

theorem Attribute.eq_of_map_encode_eq : (attributes others : List Attribute) →
    attributes.map encode = others.map encode → attributes = others
  | [], _, h => (List.map_eq_nil_iff.mp h.symm).symm
  | _ :: _, [], h => by cases h
  | a :: rest, b :: others, h => by
    obtain ⟨hfirst, hrest⟩ := List.cons.inj h
    rw [encode_inj a b hfirst, eq_of_map_encode_eq rest others hrest]

end

/-- The bytes of a block show the block. -/
theorem Block.encode_inj {block other : Block} (h : block.encode = other.encode) :
    block = other := by
  rw [encode_eq, encode_eq] at h
  have hlayout := block.fills_layout.eq_of_write_eq other.fills_layout (by decide) h
  simp only [layout, List.cons.injEq, Prod.mk.injEq, true_and, and_true,
    List.map_inj_right fun _ _ => Payload.bytes.inj, Payload.ofString_inj, Payload.ofBool_inj,
    Payload.ofEnum_inj, Payload.ofInt64_inj] at hlayout
  rcases block with ⟨version, attributes, description, kind, deprecated⟩
  rcases other with ⟨version', attributes', description', kind', deprecated'⟩
  obtain ⟨hversion, hencoded, hrest⟩ := hlayout
  rw [Block.mk.injEq]
  exact ⟨hversion, Attribute.eq_of_map_encode_eq _ _ hencoded, hrest⟩

/-- The bytes of a schema show the schema. -/
theorem Schema.encode_inj {schema other : Schema} (h : schema.encode = other.encode) :
    schema = other := by
  rw [encode_eq, encode_eq] at h
  have hlayout := schema.fills_layout.eq_of_write_eq other.fills_layout (by decide) h
  simp only [layout, List.cons.injEq, Prod.mk.injEq, true_and, and_true,
    List.map_inj_right fun _ _ => Payload.bytes.inj, Payload.ofInt64_inj] at hlayout
  rcases schema with ⟨version, block⟩
  rcases other with ⟨version', block'⟩
  obtain ⟨hversion, hencoded⟩ := hlayout
  rw [Schema.mk.injEq]
  exact ⟨hversion, eq_of_map_toList_eq (fun _ _ _ _ => Block.encode_inj) hencoded⟩

end Message

end PluginSchema
