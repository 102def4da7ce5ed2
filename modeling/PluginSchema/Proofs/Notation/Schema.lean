import PluginSchema.Notation.Schema
import PluginSchema.Proofs.Notation.Attribute

/-!
# Schemas are read back

A written block is read as the block, and so is a schema, which takes in the members of its
block, and the schemas of a plugin. An empty map of attributes is not written, and read as the
empty map that a block has by default.
-/

namespace PluginSchema

open Json (Assigns Merges Mode RecordField Value)

namespace Block

/-- A block has members of these names, in this order. -/
theorem keys_members (block : Block) : (block.members.map Prod.fst).Sublist
    ["attributes", "description", "markdown_description", "deprecation_message"] := by
  have hattributes : ((if block.attributes.isEmpty then []
      else [("attributes", Value.obj (Attribute.allToJson block.attributes))]).map
        Prod.fst).Sublist ["attributes"] := by
    split
    · exact List.nil_sublist _
    · exact List.Sublist.refl _
  rw [members, List.map_append]
  exact hattributes.append block.documentation.keys_members

/-- No name stands twice among the members of a block. -/
theorem nodup_members (block : Block) : (block.members.map Prod.fst).Nodup :=
  block.keys_members.nodup (by decide)

/-- The members of a block are assigned to it, if the maps in it ascend. -/
theorem assigns_members {block : Block} (h : block.Ordered) (mode : Mode) {room : Nat}
    (hdepth : ∀ entry ∈ block.members, entry.2.depth ≤ room) :
    Assigns (fields mode) room {} block.members block := by
  have hattributes : Assigns (fields mode) room {}
      (if block.attributes.isEmpty then []
        else [("attributes", .obj (Attribute.allToJson block.attributes))])
      { attributes := block.attributes } := by
    obtain ⟨_ | ⟨first, rest⟩, texts⟩ := block
    · exact .nil _
    · obtain ⟨inner, rfl, hinner⟩ :=
        Value.exists_room_of_depth_obj (hdepth ("attributes", _) (.head _))
      simp only [Attribute.allToJson_eq_map] at hinner ⊢
      refine .member rfl rfl (Json.readMap_node h.ascending ?_) rfl (.nil _)
      intro entry hentry
      exact Attribute.read_node (h.below entry hentry) mode
        (hinner (entry.1, _) (List.mem_map_of_mem hentry))
  have htexts : Assigns (fields mode) room { attributes := block.attributes }
      block.documentation.members block :=
    block.documentation.assigns_members room
      (fun change block => { block with documentation := change block.documentation })
      (fun texts => ⟨block.attributes, texts⟩)
      (by
        simp only [Documentation.fields, List.forall_mem_cons]
        exact ⟨rfl, rfl, rfl, List.forall_mem_nil _⟩)
      (fun _ _ => rfl) rfl rfl
  exact hattributes.append htexts

/-- The members of a block fit. -/
theorem fits_members (block : Block) : ∀ entry ∈ block.members, entry.2.Fits := by
  rw [members, List.forall_mem_append]
  refine ⟨?_, block.documentation.fits_members⟩
  split
  · exact nofun
  · exact List.forall_mem_cons.mpr ⟨Attribute.fits_allToJson block.attributes, nofun⟩

/-- A block that stands alone is read back, if the maps in it ascend. -/
theorem read_node {block : Block} (h : block.Ordered) (mode : Mode) {room : Nat}
    (hdepth : block.toJson.depth ≤ room) : read mode room block.toJson.node = .ok block := by
  obtain ⟨inner, rfl, hinner⟩ := Value.exists_room_of_depth_obj hdepth
  exact (assigns_members h mode hinner).readRecord_node block.nodup_members nofun mode _

end Block

namespace Schema

/-- A schema is read back, if the maps in its block ascend. -/
theorem read_node {schema : Schema} (h : schema.block.Ordered) {room : Nat}
    (hdepth : schema.toJson.depth ≤ room) : read room schema.toJson.node = .ok schema := by
  obtain ⟨inner, rfl, hinner⟩ := Value.exists_room_of_depth_obj hdepth
  have hown : ∀ entry ∈ schema.block.members, Json.findField fields entry.1 = none := by
    have hnames : ∀ name ∈
        ["attributes", "description", "markdown_description", "deprecation_message"],
        Json.findField fields name = none := by
      simp only [List.forall_mem_cons]
      exact ⟨rfl, rfl, rfl, rfl, List.forall_mem_nil _⟩
    exact fun entry hentry =>
      hnames entry.1 (schema.block.keys_members.subset (List.mem_map_of_mem hentry))
  have hblock : Merges fields (Block.fields .buffered) inner { version := schema.version } {}
      schema.block.members { version := schema.version } schema.block :=
    .ofTaken (Block.assigns_members h .buffered fun entry hentry => hinner entry (.tail _ hentry)) _
      hown
  have hnodup : ((("version", Value.int schema.version.toNat) :: schema.block.members).map
      Prod.fst).Nodup :=
    (schema.block.keys_members.cons_cons "version").nodup (by decide)
  have hmembers : Merges fields (Block.fields .buffered) inner {} {}
      (("version", .int schema.version.toNat) :: schema.block.members)
      { version := schema.version } schema.block :=
    .own rfl (RecordField.read_of (Json.readUInt64_node schema.version)) hblock
  rw [toJson, read, hmembers.readMerged_node hnodup hinner]
  rfl

/-- A schema fits. -/
theorem fits_toJson (schema : Schema) : schema.toJson.Fits :=
  ⟨Value.fits_int_toNat _, Value.membersFit_iff.mpr schema.block.fits_members⟩

end Schema

namespace ProviderSchema

/-- Named schemas are read as the map that they build, if the maps in their blocks ascend. -/
theorem readMap_schemasToJson_eq_ofList {schemas : List (String × Schema)}
    (hbelow : ∀ entry ∈ schemas, entry.2.block.Ordered) {room : Nat}
    (hdepth : (schemasToJson schemas).depth ≤ room) :
    Json.readMap Schema.read room (schemasToJson schemas).node =
      .ok (NameMap.ofList schemas) := by
  obtain ⟨inner, rfl, hinner⟩ := Value.exists_room_of_depth_obj hdepth
  refine Json.readMap_members fun entry hentry => ?_
  exact Schema.read_node (hbelow entry hentry)
    (hinner (entry.1, entry.2.toJson) (List.mem_map_of_mem hentry))

/-- Named schemas are read back as a map, if they ascend and the maps in their blocks do. -/
theorem readMap_schemasToJson {schemas : NameMap Schema} (hascending : schemas.Ascending)
    (hbelow : ∀ entry ∈ schemas, entry.2.block.Ordered) {room : Nat}
    (hdepth : (schemasToJson schemas).depth ≤ room) :
    Json.readMap Schema.read room (schemasToJson schemas).node = .ok schemas := by
  rw [readMap_schemasToJson_eq_ofList hbelow hdepth, NameMap.ofList_eq_self hascending]

/-- The schemas of a plugin are read back, if all maps in them ascend. -/
theorem read_node {schemas : ProviderSchema} (h : schemas.Ordered) {room : Nat}
    (hdepth : schemas.toJson.depth ≤ room) : read room schemas.toJson.node = .ok schemas := by
  obtain ⟨inner, rfl, hinner⟩ := Value.exists_room_of_depth_obj hdepth
  simp only [List.forall_mem_cons] at hinner
  obtain ⟨hprovider, hresources, hdataSources, -⟩ := hinner
  have hmembers : Assigns fields inner {} [
      ("provider", schemas.provider.toJson),
      ("resources", schemasToJson schemas.resources),
      ("data_sources", schemasToJson schemas.dataSources)] schemas :=
    .member rfl rfl (Schema.read_node h.provider hprovider) rfl <|
    .member rfl rfl (readMap_schemasToJson h.resources h.resource hresources) rfl <|
    .member rfl rfl (readMap_schemasToJson h.dataSources h.dataSource hdataSources) rfl <|
    .nil _
  exact hmembers.readRecord_node (by simp) nofun .direct _

/-- Named schemas fit. -/
theorem fits_schemasToJson (schemas : List (String × Schema)) : (schemasToJson schemas).Fits :=
  Value.fits_obj (List.forall_mem_map.mpr fun entry _ => entry.2.fits_toJson)

/-- The schemas of a plugin fit. -/
theorem fits_toJson (schemas : ProviderSchema) : schemas.toJson.Fits :=
  ⟨schemas.provider.fits_toJson, fits_schemasToJson _, fits_schemasToJson _, trivial⟩

end ProviderSchema

end PluginSchema
