import PluginSchema.Proofs.Conversion.Building
import PluginSchema.Proofs.Notation.Schema

/-!
# Listings

What an author builds by calls can be written as a listing: an object whose members are the names
and values of the calls in their order, repeated names included. A reader assigns the members of
an object that stands for a map one after the other, as the calls do. So a listing is read as what
the calls build, be it a block, a schema, an object type or the schemas of a plugin.
-/

namespace PluginSchema

open Json (Assigns Merges Mode Value)

/-- Calls on a block assign to its attributes. -/
theorem Block.build_eq (block : Block) (entries : List (String × Attribute)) :
    builder.build block entries = { block with
      attributes := entries.foldl (fun built entry => NameMap.insert entry.1 entry.2 built)
        block.attributes } := by
  induction entries generalizing block with
  | nil => rfl
  | cons entry rest ih =>
    rw [Builder.build_cons, ih]
    rfl

/-- Calls on a schema are calls on its block. -/
theorem Schema.build_eq (schema : Schema) (entries : List (String × Attribute)) :
    builder.build schema entries =
      { schema with block := Block.builder.build schema.block entries } := by
  induction entries generalizing schema with
  | nil => rfl
  | cons entry rest ih =>
    rw [Builder.build_cons, ih]
    rfl

namespace ProviderSchema

/-- What calls give a plugin for resources, in order. -/
def resourcesGiven (calls : List (Target × Schema)) : List (String × Schema) :=
  calls.filterMap fun
    | (.resource name, schema) => some (name, schema)
    | _ => none

/-- What calls give a plugin for data sources, in order. -/
def dataSourcesGiven (calls : List (Target × Schema)) : List (String × Schema) :=
  calls.filterMap fun
    | (.dataSource name, schema) => some (name, schema)
    | _ => none

/-- Calls for resources and data sources assign to the maps of either, however they mix. -/
theorem build_eq (schemas : ProviderSchema) {calls : List (Target × Schema)}
    (h : ∀ call ∈ calls, call.1 ≠ .provider) :
    builder.build schemas calls = { schemas with
      resources := (resourcesGiven calls).foldl
        (fun built entry => NameMap.insert entry.1 entry.2 built) schemas.resources
      dataSources := (dataSourcesGiven calls).foldl
        (fun built entry => NameMap.insert entry.1 entry.2 built) schemas.dataSources } := by
  induction calls generalizing schemas with
  | nil => rfl
  | cons call rest ih =>
    obtain ⟨hcall, hrest⟩ := List.forall_mem_cons.mp h
    rw [Builder.build_cons, ih _ hrest]
    match call with
    | (.provider, _) => exact absurd rfl hcall
    | (.resource _, _) => rfl
    | (.dataSource _, _) => rfl

end ProviderSchema

/-- The listing of an object type's fields. -/
def AttributeType.listing (fields : List (String × AttributeType)) : Value :=
  .obj [("object", .obj (fieldsToJson fields))]

/-- The listing of attributes, for a block or for a schema. -/
def Attribute.listing (entries : List (String × Attribute)) : Value :=
  .obj [("attributes", .obj (allToJson entries))]

/-- The listing of what calls give a plugin for resources and data sources. -/
def ProviderSchema.listing (calls : List (Target × Schema)) : Value := .obj [
  ("resources", schemasToJson (resourcesGiven calls)),
  ("data_sources", schemasToJson (dataSourcesGiven calls))]

/-- Listed fields are read as the object type of the fields. -/
theorem AttributeType.read_listing {fields : List (String × AttributeType)}
    (h : ∀ field ∈ fields, field.2.Ordered) (mode : Mode) {room : Nat}
    (hdepth : (listing fields).depth ≤ room) :
    read mode room (listing fields).node = .ok (ofFields fields) := by
  obtain ⟨inner, rfl, hinner⟩ := Value.exists_room_of_depth_obj hdepth
  obtain ⟨room, rfl, hfields⟩ := Value.exists_room_of_depth_obj (hinner _ (.head _))
  have hmap : Json.readMap (readWithin mode (room + 2)) (room + 1)
      (Value.obj (fieldsToJson fields)).node = .ok (NameMap.ofList fields) := by
    rw [fieldsToJson_eq_map]
    exact Json.readMap_members
      (readWithin_fields mode fields h (room + 2) room (by omega) hfields)
  refine Json.readVariant_content mode rfl ?_
  rw [hmap]
  rfl

/-- Listed attributes are assigned to the attributes of a block. -/
theorem Attribute.assigns_listing {entries : List (String × Attribute)}
    (h : ∀ entry ∈ entries, entry.2.Ordered) (mode : Mode) {room : Nat}
    (hdepth : (Value.obj (allToJson entries)).depth ≤ room) :
    Assigns (Block.fields mode) room {} [("attributes", .obj (allToJson entries))]
      (Block.builder.build {} entries) := by
  obtain ⟨inner, rfl, hinner⟩ := Value.exists_room_of_depth_obj hdepth
  rw [allToJson_eq_map] at hinner ⊢
  refine .member rfl rfl (Json.readMap_members fun entry hentry => ?_)
    (Block.build_eq {} entries).symm (.nil _)
  exact read_node (h entry hentry) mode (hinner (entry.1, _) (List.mem_map_of_mem hentry))

/-- Listed attributes are read as the block that giving them builds. -/
theorem Block.read_listing {entries : List (String × Attribute)}
    (h : ∀ entry ∈ entries, entry.2.Ordered) (mode : Mode) {room : Nat}
    (hdepth : (Attribute.listing entries).depth ≤ room) :
    read mode room (Attribute.listing entries).node = .ok (builder.build {} entries) := by
  obtain ⟨inner, rfl, hinner⟩ := Value.exists_room_of_depth_obj hdepth
  exact (Attribute.assigns_listing h mode (hinner _ (.head _))).readRecord_node (by simp) nofun
    mode _

/-- Listed attributes are read as the schema that giving them builds. -/
theorem Schema.read_listing {entries : List (String × Attribute)}
    (h : ∀ entry ∈ entries, entry.2.Ordered) {room : Nat}
    (hdepth : (Attribute.listing entries).depth ≤ room) :
    read room (Attribute.listing entries).node = .ok (builder.build (ofVersion 0) entries) := by
  obtain ⟨inner, rfl, hinner⟩ := Value.exists_room_of_depth_obj hdepth
  have hmembers : Merges fields (Block.fields .buffered) inner {} {}
      [("attributes", .obj (Attribute.allToJson entries))] {} (Block.builder.build {} entries) :=
    .ofTaken (Attribute.assigns_listing h .buffered (hinner _ (.head _))) _
      (List.forall_mem_cons.mpr ⟨rfl, nofun⟩)
  rw [Attribute.listing, read, hmembers.readMerged_node (by simp) hinner, build_eq]
  rfl

/-- Listed schemas are read as the plugin's schemas that giving them builds. -/
theorem ProviderSchema.read_listing {calls : List (Target × Schema)}
    (hnone : ∀ call ∈ calls, call.1 ≠ .provider)
    (h : ∀ call ∈ calls, call.2.block.Ordered) {room : Nat}
    (hdepth : (listing calls).depth ≤ room) :
    read room (listing calls).node = .ok (builder.build {} calls) := by
  have hresources : ∀ entry ∈ resourcesGiven calls, entry.2.block.Ordered := by
    intro entry hentry
    obtain ⟨⟨_ | name | _, schema⟩, hcall, hgiven⟩ := List.mem_filterMap.mp hentry <;> cases hgiven
    exact h _ hcall
  have hdataSources : ∀ entry ∈ dataSourcesGiven calls, entry.2.block.Ordered := by
    intro entry hentry
    obtain ⟨⟨_ | _ | name, schema⟩, hcall, hgiven⟩ := List.mem_filterMap.mp hentry <;> cases hgiven
    exact h _ hcall
  obtain ⟨inner, rfl, hinner⟩ := Value.exists_room_of_depth_obj hdepth
  simp only [List.forall_mem_cons] at hinner
  obtain ⟨hresourcesDepth, hdataSourcesDepth, -⟩ := hinner
  have hmembers : Assigns fields inner {} [
      ("resources", schemasToJson (resourcesGiven calls)),
      ("data_sources", schemasToJson (dataSourcesGiven calls))] (builder.build {} calls) := by
    rw [build_eq {} hnone]
    exact .member rfl rfl (readMap_schemasToJson_eq_ofList hresources hresourcesDepth) rfl <|
      .member rfl rfl (readMap_schemasToJson_eq_ofList hdataSources hdataSourcesDepth) rfl <|
      .nil _
  exact hmembers.readRecord_node (by simp) nofun .direct _

/-- The text of each listing is read as what the listed calls build, in their order and with all
repetitions, where it nests no deeper than a reader goes. -/
theorem readText_listing :
    (∀ fields : List (String × AttributeType), (∀ field ∈ fields, field.2.Ordered) →
      (AttributeType.listing fields).depth ≤ Json.maxDepth →
      Json.readText (AttributeType.read .direct) (AttributeType.listing fields).text =
        .ok (.ofFields fields)) ∧
    (∀ entries : List (String × Attribute), (∀ entry ∈ entries, entry.2.Ordered) →
      (Attribute.listing entries).depth ≤ Json.maxDepth →
      Json.readText (Block.read .direct) (Attribute.listing entries).text =
        .ok (Block.builder.build {} entries) ∧
      Json.readText Schema.read (Attribute.listing entries).text =
        .ok (Schema.builder.build (Schema.ofVersion 0) entries)) ∧
    (∀ calls : List (ProviderSchema.Target × Schema), (∀ call ∈ calls, call.1 ≠ .provider) →
      (∀ call ∈ calls, call.2.block.Ordered) →
      (ProviderSchema.listing calls).depth ≤ Json.maxDepth →
      Json.readText ProviderSchema.read (ProviderSchema.listing calls).text =
        .ok (ProviderSchema.builder.build {} calls)) := by
  refine ⟨fun fields h hdepth => ?_, fun entries h hdepth => ?_, fun calls hnone h hdepth => ?_⟩
  · have hfits : (AttributeType.listing fields).Fits :=
      ⟨AttributeType.membersFit_fieldsToJson fields, trivial⟩
    rw [Json.readText_text _ hfits, AttributeType.read_listing h .direct hdepth]
  · have hfits : (Attribute.listing entries).Fits := ⟨Attribute.fits_allToJson entries, trivial⟩
    rw [Json.readText_text _ hfits, Json.readText_text _ hfits,
      Block.read_listing h .direct hdepth, Schema.read_listing h hdepth]
    exact ⟨rfl, rfl⟩
  · have hfits : (ProviderSchema.listing calls).Fits :=
      ⟨ProviderSchema.fits_schemasToJson _, ProviderSchema.fits_schemasToJson _, trivial⟩
    rw [Json.readText_text _ hfits, ProviderSchema.read_listing hnone h hdepth]

/-- Of a field, an attribute and a resource that are listed twice the later one is read, and all
that is listed is put in order. -/
theorem readText_listing_twice :
    Json.readText (AttributeType.read .direct)
        (AttributeType.listing [("b", .string), ("a", .bool), ("b", .list .bool)]).text =
      .ok (.object [("a", .bool), ("b", .list .bool)]) ∧
    Json.readText Schema.read (Attribute.listing [
        ("b", .ofType .string .forRequired), ("", {}), ("b", .ofType .bool .forOptional)]).text =
      .ok { block.attributes := [("", {}), ("b", .ofType .bool .forOptional)] } ∧
    Json.readText ProviderSchema.read (ProviderSchema.listing [
        (.resource "b", .ofVersion 1), (.dataSource "b", .ofVersion 2), (.resource "a", {}),
        (.resource "b", .ofVersion 3)]).text =
      .ok {
        resources := [("a", {}), ("b", .ofVersion 3)]
        dataSources := [("b", .ofVersion 2)] } := by
  obtain ⟨htypes, hattributes, hcalls⟩ := readText_listing
  have hfields : ∀ field ∈ [("b", AttributeType.string), ("a", .bool), ("b", .list .bool)],
      field.2.Ordered := by
    simp only [List.forall_mem_cons]
    exact ⟨.string, .bool, .list .bool, nofun⟩
  have hentries : ∀ entry ∈ [("b", Attribute.ofType .string .forRequired), ("", {}),
      ("b", .ofType .bool .forOptional)], entry.2.Ordered := by
    simp only [List.forall_mem_cons]
    exact ⟨Attribute.ordered_ofType .string _, .intro nofun (by decide) nofun,
      Attribute.ordered_ofType .bool _, nofun⟩
  have hempty (version : UInt64) : (Schema.ofVersion version).block.Ordered :=
    ⟨List.Pairwise.nil, nofun⟩
  refine ⟨(htypes _ hfields (by decide)).trans rfl,
    (hattributes _ hentries (by decide)).2.trans rfl, (hcalls _ (by decide) ?_ ?_).trans rfl⟩
  · simp only [List.forall_mem_cons]
    exact ⟨hempty 1, hempty 2, hempty 0, hempty 3, nofun⟩
  · decide

end PluginSchema
