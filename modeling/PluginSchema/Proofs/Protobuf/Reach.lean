import PluginSchema.Proofs.Conversion.Negotiation
import PluginSchema.Proofs.Notation.Height
import PluginSchema.Proofs.Protobuf.RoundTrip

/-!
# What is authored reaches the peer

A level of nested attributes takes three containers in a document, but only two messages: that of
an object and that of an attribute in it. So a document that is not too deep for its reader gives
messages that are not too deep for the peer, although the peer follows fewer messages than the
reader follows containers.
-/

namespace PluginSchema

open Json (Value)
open Message.Attribute (depthBelow)
open Wire.Attribute (allToMessages)

namespace Attribute

mutual

/-- Each level of attributes in an attribute takes two messages. -/
theorem depth_toMessage_wire : (a : Attribute) → (name : String) →
    (a.wire name).toMessage.depth = 2 * a.height
  | ⟨_, none, _, _⟩, _ => rfl
  | ⟨_, some ⟨_, attributes, _, _⟩, _, _⟩, _ => by
    have hbelow := depthBelow_wireAll attributes
    cases attributes with
    | nil => rfl
    | cons first rest =>
      have hlevel : 0 < heightBelow (first :: rest) :=
        Nat.lt_of_lt_of_le (Nat.succ_pos _) (Nat.le_max_left _ _)
      change depthBelow (allToMessages (wireAll (first :: rest))) + 1 =
        2 * heightBelow (first :: rest)
      omega

/-- The first level of attributes takes one message, and each further level takes two. -/
theorem depthBelow_wireAll : (entries : List (String × Attribute)) →
    depthBelow (allToMessages (wireAll entries)) = 2 * heightBelow entries - 1
  | [] => rfl
  | (name, first) :: rest => by
    have hfirst := depth_toMessage_wire first name
    have hrest := depthBelow_wireAll rest
    change max ((first.wire name).toMessage.depth + 1) (depthBelow (allToMessages (wireAll rest)))
      = 2 * max (first.height + 1) (heightBelow rest) - 1
    omega

end

end Attribute

/-- A schema's message has the block's below it, and each level of attributes takes two. -/
theorem Schema.depth_toMessage_wire_le (schema : Schema) :
    schema.wire.toMessage.depth ≤ 2 * schema.height + 1 := by
  have hbelow := Attribute.depthBelow_wireAll schema.block.attributes
  change depthBelow (allToMessages (Attribute.wireAll schema.block.attributes)) + 1 ≤
    2 * Attribute.heightBelow schema.block.attributes + 1
  omega

/-- The entries of a map that fits take two messages for three containers, and three more. -/
theorem Schema.MapFits.depthOfEntries_le {room : Nat} {entries : NameMap Schema}
    (h : MapFits room entries) :
    Message.Schema.depthOfEntries
        ((entries.map fun entry => (entry.1, entry.2.wire)).map
          fun (name, schema) => (name, schema.toMessage)) ≤ (2 * room + 7) / 3 := by
  rw [Message.Schema.depthOfEntries_le_iff, List.map_map, List.forall_mem_map]
  intro entry hentry
  have hroom := h.2 entry hentry
  have hdepth := depth_toMessage_wire_le entry.2
  change entry.2.wire.toMessage.depth + 2 ≤ (2 * room + 7) / 3
  omega

namespace ProviderSchema

/-- Where schemas fit a reader of documents, their message takes two messages for three containers
in it, but for a few more. -/
theorem Fits.depth_toMessage_wire_le {room : Nat} {schemas : ProviderSchema}
    (h : schemas.Fits room) : schemas.wire.toMessage.depth ≤ (2 * room + 7) / 3 := by
  rw [Message.ProviderSchema.depth, Nat.max_le, Nat.max_le]
  refine ⟨?_, h.resources.depthOfEntries_le, h.dataSources.depthOfEntries_le⟩
  have hroom := h.provider
  have hdepth := schemas.provider.depth_toMessage_wire_le
  change schemas.provider.wire.toMessage.depth + 1 ≤ (2 * room + 7) / 3
  omega

/-- Whatever text a plugin's schemas are read from and whatever version they convert for, the peer
reads their message back from its bytes, in whatever order the entries of both maps are written.
Nothing is assumed of how deep the schemas nest. The number of the bytes must be one of 64 bits, as
that of any buffer is. -/
theorem decode_encode_of_readText {text : String} {schemas : ProviderSchema}
    (hread : Json.readText read text = .ok schemas) {capabilities : Capabilities}
    {wires : Wire.ProviderSchema} (hconvert : (schemas.convert capabilities).result = .ok wires)
    {written : Message.ProviderSchema} (hwritten : written.Lists wires.toMessage)
    (hlength : written.encode.length < UInt64.size) :
    Message.ProviderSchema.decode written.encode = some wires.toMessage := by
  obtain rfl : schemas.wire = wires := wire_eq_of_convert hconvert
  have hfits := fits_of_readText hread
  have hdepth : schemas.wire.toMessage.depth ≤ Protobuf.maxDepth :=
    Nat.le_trans hfits.depth_toMessage_wire_le (by decide)
  refine hwritten.merge_encode ?_ ?_ hdepth hlength
  · exact Wire.Schema.ascending_map_toMessage (List.pairwise_map.mpr hfits.resources.1)
  · exact Wire.Schema.ascending_map_toMessage (List.pairwise_map.mpr hfits.dataSources.1)

/-- Disks of the version 2, and volumes with a list of tags. -/
def tagged : ProviderSchema where
  resources := [
    ("disk", { version := 2 }),
    ("volume", { block := { attributes := [("tags", .ofGroup
      { mode := .list, attributes := [("name", .ofType .string .forRequired)] }
      .forOptional)] } })]

/-- A document that holds the volumes before the disks, and the group of tags as an array. -/
def taggedDocument : Value :=
  .obj [("resources", .obj [
    ("volume", .obj [("attributes", .obj [("tags", .obj [
      ("nested", .arr [.str "list", .obj [("name", .obj [
        ("type", .str "string"), ("required", .bool true)])]]),
      ("optional", .bool true)])])]),
    ("disk", .obj [("version", .int 2)])])]

/-- The peer reads the schemas back also where the volumes are written before the disks. -/
theorem decode_encode_of_readText_tagged :
    Json.readText read taggedDocument.text = .ok tagged ∧
    (tagged.convert .v6).result = .ok tagged.wire ∧
    Message.ProviderSchema.decode { tagged.wire.toMessage with
        resources := tagged.wire.toMessage.resources.reverse }.encode =
      some tagged.wire.toMessage := by
  have hfits : taggedDocument.Fits := by
    simp [taggedDocument, Value.Fits, Value.MembersFit, Value.ItemsFit]
  have hread : Json.readText read taggedDocument.text = .ok tagged := by
    rw [Json.readText, Json.Document.ofText_text hfits]
    rfl
  have hconvert : (tagged.convert .v6).result = .ok tagged.wire := rfl
  refine ⟨hread, hconvert, ?_⟩
  refine decode_encode_of_readText hread hconvert ⟨rfl, List.reverse_perm _, .refl _⟩ ?_
  decide +kernel

end ProviderSchema

end PluginSchema
