import PluginSchema.Proofs.Json.Document
import PluginSchema.Protobuf.OfWire

/-!
# The notation of types is unambiguous

Every type can be written, and the bytes of one notation begin those of another only if the types
are one. The bytes are those of texts, a text that is scanned shows where its value ends, and the
node that is scanned shows which type was written.
-/

namespace PluginSchema

namespace Json.Value

mutual

/-- A value can be told from its node. -/
theorem eq_of_node_eq : (value other : Value) → value.node = other.node → value = other
  | bool _, other, h => by cases other <;> simp_all [node]
  | int _, other, h => by cases other <;> simp_all [node]
  | str _, other, h => by cases other <;> simp_all [node]
  | arr items, other, h => by
    cases other <;> simp only [node, Node.arr.injEq, reduceCtorEq] at h
    rw [eq_of_itemNodes_eq items _ h]
  | obj members, other, h => by
    cases other <;> simp only [node, Node.obj.injEq, reduceCtorEq] at h
    rw [eq_of_memberNodes_eq members _ h]

theorem eq_of_itemNodes_eq : (items others : List Value) →
    itemNodes items = itemNodes others → items = others
  | [], [], _ => rfl
  | [], _ :: _, h => by simp [itemNodes] at h
  | _ :: _, [], h => by simp [itemNodes] at h
  | item :: items, other :: others, h => by
    obtain ⟨hitem, hitems⟩ := Items.item.inj h
    rw [eq_of_node_eq item other hitem, eq_of_itemNodes_eq items others hitems]

theorem eq_of_memberNodes_eq : (members others : List (String × Value)) →
    memberNodes members = memberNodes others → members = others
  | [], [], _ => rfl
  | [], _ :: _, h => by simp [memberNodes] at h
  | _ :: _, [], h => by simp [memberNodes] at h
  | (key, value) :: members, (_, other) :: others, h => by
    obtain ⟨hkey, hvalue, hmembers⟩ := Members.member.inj h
    rw [Option.some.inj hkey, eq_of_node_eq value other hvalue,
      eq_of_memberNodes_eq members others hmembers]

end

/-- A value that needs no end is the only one that its text begins. -/
theorem eq_of_prefix_render {value other : Value} (hvalue : value.Fits) (hother : other.Fits)
    (hends : ∀ rest, value.Ends rest) (h : value.render <+: other.render) : value = other := by
  obtain ⟨rest, hrest⟩ := h
  have hlength : value.render.length ≤ other.render.length := by
    rw [← hrest, List.length_append]
    omega
  have hscan := Node.scan_render value hvalue (3 * other.render.length) rest (hends rest) (by omega)
  have hscan' := Node.scan_render other hother (3 * other.render.length) [] other.ends_nil
    (Nat.le_refl _)
  rw [List.append_nil] at hscan'
  rw [hrest] at hscan
  exact eq_of_node_eq value other (Prod.mk.inj (hscan.symm.trans hscan')).1

end Json.Value

namespace Protobuf

/-- The bytes of one text begin those of another only if the text does. -/
theorem toList_prefix_of_utf8 {text other : String} (h : utf8 text <+: utf8 other) :
    text.toList <+: other.toList := by
  obtain ⟨rest, hrest⟩ := h
  have hbytes : text.toList.utf8Encode ++ rest.toByteArray = other.toList.utf8Encode := by
    rw [String.utf8Encode_toList, String.utf8Encode_toList]
    apply ByteArray.ext
    apply Array.ext'
    simpa [utf8] using hrest
  exact List.isPrefix_of_utf8Encode_append_eq_utf8Encode rest.toByteArray hbytes

end Protobuf

namespace Wire.ValueType

open Protobuf (utf8)

mutual

/-- What is asked to be written as the notation of a type is the notation. -/
theorem toValue_draft : (type : ValueType) → type.draft.toValue = .ok type.toJson
  | string | number | bool | dynamic => rfl
  | list element | set element | map element => by
    simp only [draft, Json.Draft.toValue, Json.Draft.toItems, toValue_draft element, toJson]
    rfl
  | object fields => by
    simp only [draft, Json.Draft.toValue, Json.Draft.toItems, toMembers_fieldDrafts fields, toJson]
    rfl

theorem toMembers_fieldDrafts : (fields : List (String × ValueType)) →
    Json.Draft.toMembers (fieldDrafts fields) = .ok (fieldsToJson fields)
  | [] => rfl
  | (name, type) :: rest => by
    simp only [fieldDrafts, Json.Draft.toMembers, Json.Draft.key, toValue_draft type,
      toMembers_fieldDrafts rest, fieldsToJson]
    rfl

end

/-- A type travels as the bytes of its notation's text. -/
theorem encoded_eq (type : ValueType) : type.encoded = utf8 type.toJson.text := by
  rw [encoded, encode, Json.Draft.text, toValue_draft]
  rfl

/-- The notation of a type can be written, so the type travels with it. -/
theorem encode_eq (type : ValueType) : type.encode = .ok type.encoded := by
  rw [encoded_eq, encode, Json.Draft.text, toValue_draft]
  rfl

mutual

/-- No number stands in the notation of a type. -/
theorem fits_toJson : (type : ValueType) → type.toJson.Fits
  | string | number | bool | dynamic => trivial
  | list element | set element | map element => ⟨trivial, fits_toJson element, trivial⟩
  | object fields => ⟨trivial, membersFit_fieldsToJson fields, trivial⟩

theorem membersFit_fieldsToJson : (fields : List (String × ValueType)) →
    Json.Value.MembersFit (fieldsToJson fields)
  | [] => trivial
  | (_, type) :: rest => ⟨fits_toJson type, membersFit_fieldsToJson rest⟩

end

/-- The notation of a type closes itself. -/
theorem ends_toJson (type : ValueType) (rest : List Char) : type.toJson.Ends rest := by
  cases type <;> trivial

mutual

/-- Distinct types have distinct notations. -/
theorem toJson_inj : (type other : ValueType) → type.toJson = other.toJson → type = other
  | string, other, h | number, other, h | bool, other, h | dynamic, other, h => by
    cases other <;> simp [toJson] at h ⊢
  | list element, other, h | set element, other, h | map element, other, h => by
    cases other <;> simp [toJson] at h ⊢
    exact toJson_inj element _ h
  | object fields, other, h => by
    cases other <;> simp [toJson] at h ⊢
    exact fieldsToJson_inj fields _ h

theorem fieldsToJson_inj : (fields others : List (String × ValueType)) →
    fieldsToJson fields = fieldsToJson others → fields = others
  | [], [], _ => rfl
  | [], _ :: _, h => by simp [fieldsToJson] at h
  | _ :: _, [], h => by simp [fieldsToJson] at h
  | (name, type) :: rest, (_, other) :: others, h => by
    simp only [fieldsToJson, List.cons.injEq, Prod.mk.injEq] at h
    obtain ⟨⟨rfl, htype⟩, hrest⟩ := h
    rw [toJson_inj type other htype, fieldsToJson_inj rest others hrest]

end

/-- The bytes of one type begin those of another only if the types are one. -/
theorem eq_of_prefix_encoded {type other : ValueType} (h : type.encoded <+: other.encoded) :
    type = other := by
  rw [encoded_eq, encoded_eq] at h
  have htext := Protobuf.toList_prefix_of_utf8 h
  simp only [Json.Value.text, String.toList_ofList] at htext
  exact toJson_inj type other (Json.Value.eq_of_prefix_render type.fits_toJson other.fits_toJson
    type.ends_toJson htext)

/-- A type never travels as no bytes. -/
theorem encoded_ne_nil (type : ValueType) : type.encoded ≠ [] := by
  intro h
  have hstring : type = string := eq_of_prefix_encoded (h ▸ List.nil_prefix)
  have hnumber : type = number := eq_of_prefix_encoded (h ▸ List.nil_prefix)
  cases hstring.symm.trans hnumber

/-- The bytes of an attribute's type in its message are those of the notation, and there are none
exactly if the attribute has no type. -/
theorem encode_type? (a : Wire.Attribute) :
    a.type?.map encode =
      if a.toMessage.type = [] then none else some (.ok a.toMessage.type) := by
  have htype : a.toMessage.type = (a.type?.map encoded).getD [] := by
    rcases a with ⟨name, type, _ | ⟨attributes, nesting, low, high⟩, description, flags, deprecated⟩
      <;> rfl
  rw [htype]
  cases a.type? with
  | none => rfl
  | some type => simp [encoded_ne_nil, encode_eq]

/-- The notation of a type can be written and is not empty, it begins no notation but its own, and
the messages of attributes carry nothing else where there is a type. -/
theorem encode_unambiguous :
    (∀ type : ValueType, type.encode = .ok type.encoded ∧ type.encoded ≠ []) ∧
    (∀ type other : ValueType, type.encoded <+: other.encoded ↔ type = other) ∧
    ∀ a : Wire.Attribute, a.type?.map encode =
      if a.toMessage.type = [] then none else some (.ok a.toMessage.type) := by
  refine ⟨fun type => ⟨type.encode_eq, type.encoded_ne_nil⟩,
    fun type other => ⟨eq_of_prefix_encoded, ?_⟩, encode_type?⟩
  rintro rfl
  exact List.prefix_rfl

/-- A field may have the name of a type, or one that is a quote. -/
example : (object [("\"", .bool), ("list", .list .string)]).encode =
    .ok (utf8 "[\"object\",\x7b\"\\\"\":\"bool\",\"list\":[\"list\",\"string\"]\x7d]") := by
  decide

end Wire.ValueType

end PluginSchema
