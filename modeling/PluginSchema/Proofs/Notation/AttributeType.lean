import PluginSchema.Notation.AttributeType
import PluginSchema.Proofs.Json.Reading
import PluginSchema.Proofs.Ordered

/-!
# Types are read back

A written type is read as the type, directly or from a part of a document that was looked through
before, if the fields of its object types ascend. Each type in it stands in a container of its
own, so the levels that a reader goes down never run out before the room does.
-/

namespace PluginSchema.AttributeType

open Json (Mode Value)

theorem fieldsToJson_eq_map (fields : List (String × AttributeType)) :
    fieldsToJson fields = fields.map fun field => (field.1, field.2.toJson) := by
  induction fields with
  | nil => rfl
  | cons field rest ih => rw [fieldsToJson, ih, List.map_cons]

mutual

/-- No number stands in a written type. -/
theorem fits_toJson : (type : AttributeType) → type.toJson.Fits
  | string | number | int64 | float64 | bool | dynamic => trivial
  | list element | set element | map element => ⟨fits_toJson element, trivial⟩
  | object fields => ⟨membersFit_fieldsToJson fields, trivial⟩

theorem membersFit_fieldsToJson : (fields : List (String × AttributeType)) →
    Value.MembersFit (fieldsToJson fields)
  | [] => trivial
  | (_, type) :: rest => ⟨fits_toJson type, membersFit_fieldsToJson rest⟩

end

/-- A type with one part is read back, if the part is. -/
theorem readWithin_part {mode : Mode} {levels room : Nat} {part : AttributeType} {name : String}
    {whole : AttributeType → AttributeType}
    (hvariant : (variants (readWithin mode levels)).lookup name =
      some (.content fun room node => return whole (← readWithin mode levels room node)))
    (hpart : readWithin mode levels room part.toJson.node = .ok part) :
    readWithin mode (levels + 1) (room + 1) (Value.obj [(name, part.toJson)]).node =
      .ok (whole part) := by
  refine Json.readVariant_content mode hvariant ?_
  rw [hpart]
  rfl

mutual

/-- A written type is read back, if the maps in it ascend. -/
theorem readWithin_node (mode : Mode) : (type : AttributeType) → type.Ordered →
    ∀ levels room, room < levels → type.toJson.depth ≤ room →
    readWithin mode levels room type.toJson.node = .ok type
  | string, _, _ + 1, _, _, _ | number, _, _ + 1, _, _, _ | int64, _, _ + 1, _, _, _
  | float64, _, _ + 1, _, _, _ | bool, _, _ + 1, _, _, _ | dynamic, _, _ + 1, _, _, _ =>
    Json.readVariant_bare mode rfl
  | list element, .list h, levels + 1, room, hlevels, hdepth
  | set element, .set h, levels + 1, room, hlevels, hdepth
  | map element, .map h, levels + 1, room, hlevels, hdepth => by
    obtain ⟨inner, rfl, hinner⟩ := Value.exists_room_of_depth_obj hdepth
    exact readWithin_part rfl
      (readWithin_node mode element h levels inner (by omega) (hinner _ (.head _)))
  | object fields, .object hascending hbelow, levels + 1, room, hlevels, hdepth => by
    obtain ⟨inner, rfl, hinner⟩ := Value.exists_room_of_depth_obj hdepth
    obtain ⟨room, rfl, hfields⟩ := Value.exists_room_of_depth_obj (hinner _ (.head _))
    have hmap : Json.readMap (readWithin mode levels) (room + 1)
        (Value.obj (fieldsToJson fields)).node = .ok fields := by
      rw [fieldsToJson_eq_map]
      exact Json.readMap_node hascending
        (readWithin_fields mode fields hbelow levels room (by omega) hfields)
    refine Json.readVariant_content mode rfl ?_
    rw [hmap]
    rfl

theorem readWithin_fields (mode : Mode) : (fields : List (String × AttributeType)) →
    (∀ field ∈ fields, field.2.Ordered) → ∀ levels room, room < levels →
    (∀ entry ∈ fieldsToJson fields, entry.2.depth ≤ room) →
    ∀ field ∈ fields, readWithin mode levels room field.2.toJson.node = .ok field.2
  | [], _, _, _, _, _ => by simp
  | (name, type) :: rest, h, levels, room, hlevels, hdepth => by
    obtain ⟨hfirst, hrest⟩ := List.forall_mem_cons.mp h
    obtain ⟨hfirstDepth, hrestDepth⟩ := List.forall_mem_cons.mp hdepth
    exact List.forall_mem_cons.mpr
      ⟨readWithin_node mode type hfirst levels room hlevels hfirstDepth,
        readWithin_fields mode rest hrest levels room hlevels hrestDepth⟩

end

/-- A written type is read back where there is room for its containers, if the maps in it
ascend. -/
theorem read_node {type : AttributeType} (h : type.Ordered) (mode : Mode) {room : Nat}
    (hdepth : type.toJson.depth ≤ room) : read mode room type.toJson.node = .ok type :=
  readWithin_node mode type h (room + 1) room (Nat.lt_succ_self room) hdepth

end PluginSchema.AttributeType
