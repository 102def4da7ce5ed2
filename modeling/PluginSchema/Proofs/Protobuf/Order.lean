import PluginSchema.Proofs.Conversion.Negotiation
import PluginSchema.Proofs.Protobuf.RoundTrip

/-!
# The order of entries shows in the bytes

The entries of a message's maps may be written in any order. A reader does not see the order, but
the bytes do: two listings of one message have the same bytes only if they are the same listing. So
the bytes of a plugin's schemas are determined by the schemas only where no map leaves a choice,
which is where each has one entry at most.
-/

namespace PluginSchema

namespace Message

open Protobuf (Layout Payload)

/-- The layout of an entry has a part for the name and one for the schema. -/
theorem Schema.fills_entryLayout (entry : String × Schema) :
    Layout.Fills [1, 2] (entryLayout entry) :=
  .cons (Payload.written_ofBytes _) <| .cons (Payload.written_map_bytes _) .nil

/-- The bytes of an entry show the entry. -/
theorem Schema.encodeEntry_inj {entry other : String × Schema}
    (h : encodeEntry entry = encodeEntry other) : entry = other := by
  rw [encodeEntry_eq, encodeEntry_eq] at h
  have hlayout := (fills_entryLayout entry).eq_of_write_eq (fills_entryLayout other) (by decide) h
  simp only [entryLayout, List.cons.injEq, Prod.mk.injEq, true_and, and_true,
    List.map_inj_right fun _ _ => Payload.bytes.inj, Payload.ofString_inj] at hlayout
  obtain ⟨hname, hencoded⟩ := hlayout
  have hgiven := eq_of_map_toList_eq (fun _ _ _ _ => encode_inj) hencoded
  have hschema : entry.2 = other.2 := by rw [← getD_given entry.2, hgiven, getD_given]
  exact Prod.ext hname hschema

namespace ProviderSchema

/-- The layout of a plugin's schemas has a part for each field. -/
theorem fills_layout (schemas : ProviderSchema) : Layout.Fills [1, 2, 3] schemas.layout :=
  .cons (Payload.written_map_bytes _) <| .cons (Payload.written_map_bytes _) <|
  .cons (Payload.written_map_bytes _) .nil

/-- The bytes of a plugin's schemas show them, with the order in which entries are written. -/
theorem encode_inj {written other : ProviderSchema} (h : written.encode = other.encode) :
    written = other := by
  rw [encode_eq, encode_eq] at h
  have hlayout := written.fills_layout.eq_of_write_eq other.fills_layout (by decide) h
  have hentries {entries others : List (String × Schema)} :
      entries.map Schema.encodeEntry = others.map Schema.encodeEntry ↔ entries = others :=
    List.map_inj_right fun _ _ => Schema.encodeEntry_inj
  simp only [layout, List.cons.injEq, Prod.mk.injEq, true_and, and_true,
    List.map_inj_right fun _ _ => Payload.bytes.inj, hentries] at hlayout
  rcases written with ⟨provider, resources, dataSources⟩
  rcases other with ⟨provider', resources', dataSources'⟩
  obtain ⟨hprovider, hresources, hdataSources⟩ := hlayout
  rw [ProviderSchema.mk.injEq]
  exact ⟨eq_of_map_toList_eq (fun _ _ _ _ => Schema.encode_inj) hprovider, hresources,
    hdataSources⟩

/-- The order of entries leaves no trace in the bytes just if no map has two entries. -/
theorem forall_encode_eq_iff {schemas : ProviderSchema}
    (hresources : NameMap.Ascending schemas.resources)
    (hdataSources : NameMap.Ascending schemas.dataSources) :
    (∀ written other : ProviderSchema, written.Lists schemas → other.Lists schemas →
      written.encode = other.encode) ↔
      schemas.resources.length ≤ 1 ∧ schemas.dataSources.length ≤ 1 := by
  rw [← hresources.forall_perm_iff, ← hdataSources.forall_perm_iff]
  constructor
  · intro hsame
    have hlisted (written : ProviderSchema) (hwritten : written.Lists schemas) :
        written = schemas := encode_inj (hsame written schemas hwritten ⟨rfl, .refl _, .refl _⟩)
    refine ⟨fun listed hlisting => ?_, fun listed hlisting => ?_⟩
    · exact congrArg resources
        (hlisted { schemas with resources := listed } ⟨rfl, hlisting, .refl _⟩)
    · exact congrArg dataSources
        (hlisted { schemas with dataSources := listed } ⟨rfl, .refl _, hlisting⟩)
  · rintro ⟨hresource, hdataSource⟩
    have hlisted {written : ProviderSchema} (h : written.Lists schemas) : written = schemas := by
      obtain ⟨hprovider, hresources, hdataSources⟩ := h
      rcases written with ⟨provider, resources, dataSources⟩
      rw [ProviderSchema.mk.injEq]
      exact ⟨hprovider, hresource _ hresources, hdataSource _ hdataSources⟩
    intro written other hwritten hother
    rw [hlisted hwritten, hlisted hother]

end ProviderSchema

end Message

namespace ProviderSchema

/-- What a plugin's schemas convert to is sent as the same bytes in each run, whatever the order in
which a run writes the entries of the two maps, just if there is one resource and one data source at
most. -/
theorem encode_convert_eq_iff {schemas : ProviderSchema}
    (hresources : NameMap.Ascending schemas.resources)
    (hdataSources : NameMap.Ascending schemas.dataSources) {capabilities : Capabilities}
    {wires : Wire.ProviderSchema} (hconvert : (schemas.convert capabilities).result = .ok wires) :
    (∀ written other : Message.ProviderSchema, written.Lists wires.toMessage →
      other.Lists wires.toMessage → written.encode = other.encode) ↔
      schemas.resources.length ≤ 1 ∧ schemas.dataSources.length ≤ 1 := by
  obtain rfl : schemas.wire = wires := wire_eq_of_convert hconvert
  rw [Message.ProviderSchema.forall_encode_eq_iff]
  · simp [wire, Wire.ProviderSchema.toMessage]
  · exact Wire.Schema.ascending_map_toMessage (List.pairwise_map.mpr hresources)
  · exact Wire.Schema.ascending_map_toMessage (List.pairwise_map.mpr hdataSources)

/-- A plugin with two resources. -/
def twins : ProviderSchema where
  resources := [("a", {}), ("b", {})]

/-- The twins are sent as bytes that depend on the run, and one of them alone is not. -/
theorem encode_convert_eq_iff_twins :
    (¬∀ written other : Message.ProviderSchema, written.Lists twins.wire.toMessage →
      other.Lists twins.wire.toMessage → written.encode = other.encode) ∧
    ∀ written other : Message.ProviderSchema,
      written.Lists (wire { resources := twins.resources.take 1 }).toMessage →
      other.Lists (wire { resources := twins.resources.take 1 }).toMessage →
        written.encode = other.encode := by
  have htwins : (twins.convert .v6).result = .ok twins.wire := rfl
  have hsingle : (convert .v6 { resources := twins.resources.take 1 }).result =
      .ok (wire { resources := twins.resources.take 1 }) := rfl
  constructor
  · rw [encode_convert_eq_iff (by decide) (by decide) htwins]
    decide
  · rw [encode_convert_eq_iff (by decide) (by decide) hsingle]
    decide

/-- The bytes of the twins with the first one written first, and with the second one. -/
theorem not_encode_convert_eq :
    (twins.convert .v6).result = .ok twins.wire ∧
    ∃ written other : Message.ProviderSchema,
      written.Lists twins.wire.toMessage ∧ other.Lists twins.wire.toMessage ∧
      written.encode = [10, 2, 18, 0, 18, 7, 10, 1, 97, 18, 2, 18, 0, 18, 7, 10, 1, 98, 18, 2, 18,
        0] ∧
      other.encode = [10, 2, 18, 0, 18, 7, 10, 1, 98, 18, 2, 18, 0, 18, 7, 10, 1, 97, 18, 2, 18,
        0] ∧
      written.encode ≠ other.encode := by
  have hreversed : { twins.wire.toMessage with
      resources := twins.wire.toMessage.resources.reverse }.Lists twins.wire.toMessage :=
    ⟨rfl, List.reverse_perm _, .refl _⟩
  refine ⟨rfl, twins.wire.toMessage, _, ⟨rfl, .refl _, .refl _⟩, hreversed, ?_, ?_, ?_⟩ <;>
    decide +kernel

end ProviderSchema

end PluginSchema
