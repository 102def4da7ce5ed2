import PluginSchema.Proofs.Protobuf.Lowering
import PluginSchema.Proofs.Protobuf.Reading
import PluginSchema.Protobuf.Decode

/-!
# Messages from their own bytes

A reader gets back just the message whose bytes it reads, as long as messages nest no deeper than
it may follow. Of a plugin's schemas this holds in whatever order the entries of the maps are
written, since a reader puts them in order.

The number of bytes is taken to fit 64 bits, as it does in every memory.
-/

namespace PluginSchema

namespace Message

open Protobuf
open Payload (ofString)

namespace Attribute

mutual

/-- How deep messages nest below the message of an attribute. -/
def depth : Attribute → Nat
  | ⟨_, _, none, _, _, _, _⟩ => 0
  | ⟨_, _, some ⟨attributes, _, _, _⟩, _, _, _, _⟩ => depthBelow attributes + 1

/-- How deep messages nest below a message that holds attributes. -/
def depthBelow : List Attribute → Nat
  | [] => 0
  | a :: rest => max (a.depth + 1) (depthBelow rest)

end

end Attribute

/-- How deep messages nest below the message of an object. -/
def Object.depth (object : Object Attribute) : Nat := Attribute.depthBelow object.attributes

/-- How deep messages nest below the message of a block. -/
def Block.depth (block : Block) : Nat := Attribute.depthBelow block.attributes

/-- How deep messages nest below the message of a schema. -/
def Schema.depth (schema : Schema) : Nat :=
  match schema.block with
  | none => 0
  | some block => block.depth + 1

/-- How deep messages nest below a message with named schemas. An entry of a map is a message
around the schema's own. -/
def Schema.depthOfEntries : List (String × Schema) → Nat
  | [] => 0
  | (_, schema) :: rest => max (schema.depth + 2) (depthOfEntries rest)

/-- How deep messages nest below the message of a plugin's schemas. -/
def ProviderSchema.depth (schemas : ProviderSchema) : Nat :=
  max (match schemas.provider with
    | none => 0
    | some schema => schema.depth + 1)
    (max (Schema.depthOfEntries schemas.resources) (Schema.depthOfEntries schemas.dataSources))

theorem Schema.depthOfEntries_le_iff {entries : List (String × Schema)} {room : Nat} :
    depthOfEntries entries ≤ room ↔ ∀ entry ∈ entries, entry.2.depth + 2 ≤ room := by
  induction entries with
  | nil => simp [depthOfEntries]
  | cons entry rest ih => rw [depthOfEntries, Nat.max_le, ih, List.forall_mem_cons]

theorem Object.legible_layout {α : Type} (object : Object α) (attributes : List Bytes) :
    Layout.Legible noMaps (object.layout attributes) :=
  .inner attributes (by decide) <| .plain (by decide) rfl (Payload.counted_ofUInt64 _) <|
  .plain (by decide) rfl (Payload.counted_ofUInt64 _) <|
  .plain (by decide) rfl (Payload.counted_ofUInt64 _) .nil

theorem Attribute.legible_layout (a : Attribute) : Layout.Legible noMaps a.layout :=
  .plain (by decide) rfl (Payload.counted_ofBytes _) <|
  .plain (by decide) rfl (Payload.counted_ofBytes _) <|
  .plain (by decide) rfl (Payload.counted_ofBytes _) <|
  .plain (by decide) rfl (Payload.counted_ofUInt64 _) <|
  .plain (by decide) rfl (Payload.counted_ofUInt64 _) <|
  .plain (by decide) rfl (Payload.counted_ofUInt64 _) <|
  .plain (by decide) rfl (Payload.counted_ofUInt64 _) <|
  .plain (by decide) rfl (Payload.counted_ofUInt64 _) <|
  .plain (by decide) rfl (Payload.counted_ofUInt64 _) <| .inner _ (by decide) .nil

theorem Block.legible_layout (block : Block) : Layout.Legible noMaps block.layout :=
  .plain (by decide) rfl (Payload.counted_ofUInt64 _) <| .inner _ (by decide) <|
  .plain (by decide) rfl (Payload.counted_ofBytes _) <|
  .plain (by decide) rfl (Payload.counted_ofUInt64 _) <|
  .plain (by decide) rfl (Payload.counted_ofUInt64 _) .nil

theorem Schema.legible_layout (schema : Schema) : Layout.Legible noMaps schema.layout :=
  .plain (by decide) rfl (Payload.counted_ofUInt64 _) <| .inner _ (by decide) .nil

/-- An object is read back, if the attributes in it are. -/
theorem Object.merge_encode_of_forall {object : Object Attribute} {room : Nat}
    (hlength : object.encode.length < UInt64.size)
    (h : ∀ a ∈ object.attributes, descend Attribute.merge room {} a.encode = some a) :
    Object.merge room {} object.encode = some object := by
  have hmerge : Object.merge room =
      mergeFields noMaps room (Object.step (descend Attribute.merge room) room) := by
    cases room <;> rfl
  rw [encode_eq] at hlength ⊢
  rw [hmerge]
  refine (object.legible_layout _).mergeFields_write hlength ?_
  rcases object with ⟨attributes, nesting, low, high⟩
  have hattributes (earlier : List Attribute) (a : Attribute) (ha : a ∈ attributes) :
      Object.step (descend Attribute.merge room) room ⟨earlier, 0, 0, 0⟩ ⟨1, .bytes a.encode⟩ =
        some ⟨earlier ++ [a], 0, 0, 0⟩ := by
    simp [Object.step, WireField.bytes?, h a ha]
  exact .cons (takes_repeated (Object.mk · 0 0 0) hattributes) <|
    .cons (takes_of_tells (Object.mk attributes · 0 0)
      (Payload.tells_ofEnum nesting) fun _ => rfl) <|
    .cons (takes_of_tells (Object.mk attributes nesting · 0)
      (Payload.tells_ofInt64 low) fun _ => rfl) <|
    .cons (takes_of_tells (Object.mk attributes nesting low ·)
      (Payload.tells_ofInt64 high) fun _ => rfl) <| .nil _

/-- An attribute is read back, if the object in it is. -/
theorem Attribute.merge_encode_of_forall {a : Attribute} {room : Nat}
    (hlength : a.encode.length < UInt64.size)
    (h : ∀ object ∈ a.nested, descend Object.merge room {} object.encode = some object) :
    Attribute.merge room {} a.encode = some a := by
  have hmerge : Attribute.merge room =
      mergeFields noMaps room (Attribute.step (descend Object.merge room) room) := by
    cases room <;> rfl
  rw [encode_eq] at hlength ⊢
  rw [hmerge]
  refine a.legible_layout.mergeFields_write hlength ?_
  rcases a with ⟨name, type, nested, description, ⟨required, optional, computed, sensitive⟩, kind,
    deprecated⟩
  have hnested (object : Object Attribute) (hobject : object ∈ nested) :
      Attribute.step (descend Object.merge room) room
        ⟨name, type, none, description, ⟨required, optional, computed, sensitive⟩, kind, deprecated⟩
        ⟨10, .bytes object.encode⟩ =
      some ⟨name, type, some object, description, ⟨required, optional, computed, sensitive⟩, kind,
        deprecated⟩ := by
    simp [Attribute.step, WireField.bytes?, h object hobject]
  exact .cons (takes_of_tells (Attribute.mk · [] none "" {} 0 false)
      (Payload.tells_ofString name) fun _ => rfl) <|
    .cons (takes_of_tells (Attribute.mk name · none "" {} 0 false)
      (Payload.tells_ofBytes type) fun _ => rfl) <|
    .cons (takes_of_tells (Attribute.mk name type none · {} 0 false)
      (Payload.tells_ofString description) fun _ => rfl) <|
    .cons (takes_of_tells (Attribute.mk name type none description ⟨·, false, false, false⟩ 0 false)
      (Payload.tells_ofBool required) fun _ => rfl) <|
    .cons (takes_of_tells
      (Attribute.mk name type none description ⟨required, ·, false, false⟩ 0 false)
      (Payload.tells_ofBool optional) fun _ => rfl) <|
    .cons (takes_of_tells
      (Attribute.mk name type none description ⟨required, optional, ·, false⟩ 0 false)
      (Payload.tells_ofBool computed) fun _ => rfl) <|
    .cons (takes_of_tells
      (Attribute.mk name type none description ⟨required, optional, computed, ·⟩ 0 false)
      (Payload.tells_ofBool sensitive) fun _ => rfl) <|
    .cons (takes_of_tells
      (Attribute.mk name type none description ⟨required, optional, computed, sensitive⟩ · false)
      (Payload.tells_ofEnum kind) fun _ => rfl) <|
    .cons (takes_of_tells
      (Attribute.mk name type none description ⟨required, optional, computed, sensitive⟩ kind ·)
      (Payload.tells_ofBool deprecated) fun _ => rfl) <|
    .cons (takes_optional
      (Attribute.mk name type · description ⟨required, optional, computed, sensitive⟩ kind
        deprecated)
      hnested) <| .nil _

/-- The attributes in an object are no longer than the object. -/
theorem Object.attributes_length_lt {object : Object Attribute}
    (hlength : object.encode.length < UInt64.size) :
    ∀ a ∈ object.attributes, a.encode.length < UInt64.size := by
  rw [encode_eq] at hlength
  have hlengths := (object.legible_layout _).length_lt hlength (.head _)
  exact List.forall_mem_map.mp hlengths

/-- The object in an attribute is no longer than the attribute. -/
theorem Attribute.nested_length_lt {a : Attribute} (hlength : a.encode.length < UInt64.size) :
    ∀ object ∈ a.nested, object.encode.length < UInt64.size := by
  rw [encode_eq] at hlength
  intro object hobject
  have hpart : (10, (a.nested.toList.map Object.encode).map Payload.bytes) ∈ a.layout := by
    simp [layout]
  have hlengths := a.legible_layout.length_lt hlength hpart
  exact hlengths _ (List.mem_map_of_mem (Option.mem_toList.mpr hobject))

mutual

/-- An attribute is read back, if messages nest no deeper in it than a reader may follow. -/
theorem Attribute.merge_encode : (a : Attribute) → (room : Nat) → a.depth ≤ room →
    a.encode.length < UInt64.size → Attribute.merge room {} a.encode = some a
  | ⟨name, type, none, description, flags, kind, deprecated⟩, room, _, hlength =>
    merge_encode_of_forall hlength nofun
  | ⟨name, type, some ⟨attributes, nesting, low, high⟩, description, flags, kind, deprecated⟩, room,
      hdepth, hlength => by
    have hobject := nested_length_lt hlength _ rfl
    refine merge_encode_of_forall hlength ?_
    rintro object ⟨⟩
    rw [depth] at hdepth
    obtain ⟨room, rfl⟩ : ∃ smaller, room = smaller + 1 := ⟨room - 1, by omega⟩
    exact Object.merge_encode_of_forall hobject
      (descend_merge_encode attributes room (by omega) (Object.attributes_length_lt hobject))

/-- Attributes are read back within a message, if messages nest no deeper in it than a reader may
follow. -/
theorem Attribute.descend_merge_encode : (attributes : List Attribute) → (room : Nat) →
    depthBelow attributes ≤ room → (∀ a ∈ attributes, a.encode.length < UInt64.size) →
    ∀ a ∈ attributes, descend Attribute.merge room {} a.encode = some a
  | [], _, _, _ => nofun
  | first :: rest, room, hdepth, hlength => by
    obtain ⟨hfirst, hrest⟩ := List.forall_mem_cons.mp hlength
    rw [depthBelow] at hdepth
    obtain ⟨room, rfl⟩ : ∃ smaller, room = smaller + 1 := ⟨room - 1, by omega⟩
    refine List.forall_mem_cons.mpr ⟨?_, ?_⟩
    · exact merge_encode first room (by omega) hfirst
    · exact descend_merge_encode rest (room + 1) (by omega) hrest

end

/-- An object is read back, if messages nest no deeper in it than a reader may follow. -/
theorem Object.merge_encode {object : Object Attribute} {room : Nat} (hdepth : object.depth ≤ room)
    (hlength : object.encode.length < UInt64.size) :
    Object.merge room {} object.encode = some object :=
  merge_encode_of_forall hlength
    (Attribute.descend_merge_encode object.attributes room hdepth (attributes_length_lt hlength))

/-- A block is read back, if messages nest no deeper in it than a reader may follow. -/
theorem Block.merge_encode {block : Block} {room : Nat} (hdepth : block.depth ≤ room)
    (hlength : block.encode.length < UInt64.size) :
    Block.merge room {} block.encode = some block := by
  rw [encode_eq] at hlength ⊢
  have hlengths := block.legible_layout.length_lt hlength (.tail _ (.head _))
  have hread := Attribute.descend_merge_encode block.attributes room hdepth
    (List.forall_mem_map.mp hlengths)
  rw [merge]
  refine block.legible_layout.mergeFields_write hlength ?_
  rcases block with ⟨version, attributes, description, kind, deprecated⟩
  refine .cons (takes_of_tells (Block.mk · [] "" 0 false)
    (Payload.tells_ofInt64 version) fun _ => rfl) ?_
  refine .cons (takes_repeated (Block.mk version · "" 0 false) ?_) ?_
  · intro earlier a ha
    simp [WireField.bytes?, hread a ha]
  exact .cons (takes_of_tells (Block.mk version attributes · 0 false)
      (Payload.tells_ofString description) fun _ => rfl) <|
    .cons (takes_of_tells (Block.mk version attributes description · false)
      (Payload.tells_ofEnum kind) fun _ => rfl) <|
    .cons (takes_of_tells (Block.mk version attributes description kind ·)
      (Payload.tells_ofBool deprecated) fun _ => rfl) <| .nil _

/-- A schema is read back, if messages nest no deeper in it than a reader may follow. -/
theorem Schema.merge_encode {schema : Schema} {room : Nat} (hdepth : schema.depth ≤ room)
    (hlength : schema.encode.length < UInt64.size) :
    Schema.merge room {} schema.encode = some schema := by
  rw [encode_eq] at hlength ⊢
  have hlengths := schema.legible_layout.length_lt hlength (.tail _ (.head _))
  rw [merge]
  refine schema.legible_layout.mergeFields_write hlength ?_
  rcases schema with ⟨version, block⟩
  refine .cons (takes_of_tells (Schema.mk · none) (Payload.tells_ofInt64 version) fun _ => rfl) <|
    .cons (takes_optional (Schema.mk version ·) ?_) <| .nil _
  rintro inner ⟨⟩
  have hinner := hlengths _ (List.mem_map_of_mem (Option.mem_toList.mpr rfl))
  have hdepth : inner.depth + 1 ≤ room := hdepth
  obtain ⟨room, rfl⟩ : ∃ smaller, room = smaller + 1 := ⟨room - 1, by omega⟩
  have hread : Block.merge room {} inner.encode = some inner :=
    Block.merge_encode (by omega) hinner
  simp [WireField.bytes?, descend, hread]

/-- The schema that is written in an entry: none, if it is the one that a reader begins with. -/
def Schema.given (schema : Schema) : Option Schema :=
  if schema.version = 0 ∧ schema.block.isNone then none else some schema

theorem Schema.getD_given (schema : Schema) : schema.given.getD {} = schema := by
  rcases schema with ⟨version, block⟩
  unfold given
  split
  · next hdefault =>
    obtain ⟨rfl, hblock⟩ := hdefault
    obtain rfl : block = none := Option.isNone_iff_eq_none.mp hblock
    rfl
  · rfl

theorem Schema.eq_of_mem_given {schema other : Schema} (h : other ∈ schema.given) :
    other = schema := by
  have hother := schema.getD_given
  rwa [Option.mem_def.mp h] at hother

/-- The layout of a map's entry. -/
def Schema.entryLayout (entry : String × Schema) : Layout := [
  (1, ofString entry.1),
  (2, (entry.2.given.toList.map Schema.encode).map .bytes)]

/-- The bytes of an entry are those of its layout. -/
theorem Schema.encodeEntry_eq (entry : String × Schema) :
    encodeEntry entry = (entryLayout entry).write := by
  have hvalue : (if entry.2.version = 0 ∧ entry.2.block.isNone then []
      else delimitedField 2 entry.2.encode) = optionalField 2 encode entry.2.given := by
    unfold given
    split <;> rfl
  simp only [encodeEntry, hvalue, optionalField_eq, entryLayout, stringField, ofString,
    Layout.write_cons, Layout.write_nil, Layout.bytesField_eq, Layout.delimitedFields_eq,
    List.append_nil]

theorem Schema.legible_entryLayout (entry : String × Schema) :
    Layout.Legible noMaps (entryLayout entry) :=
  .plain (by decide) rfl (Payload.counted_ofBytes _) <| .inner _ (by decide) .nil

/-- An entry is read back, if messages nest no deeper in it than a reader may follow. -/
theorem Schema.mergeEntry_encode {entry : String × Schema} {room : Nat}
    (hdepth : entry.2.depth + 1 ≤ room) (hlength : (encodeEntry entry).length < UInt64.size) :
    Schema.mergeEntry room ("", {}) (encodeEntry entry) = some entry := by
  rw [encodeEntry_eq] at hlength ⊢
  have hlengths := (legible_entryLayout entry).length_lt hlength (.tail _ (.head _))
  rw [mergeEntry]
  refine (legible_entryLayout entry).mergeFields_write hlength ?_
  rcases entry with ⟨name, schema⟩
  refine .cons (takes_of_tells (fun name => (name, ({} : Schema)))
    (Payload.tells_ofString name) fun _ => rfl) <| .cons ?_ <| .nil _
  have hset : (name, schema.given.getD {}) = (name, schema) := by rw [getD_given]
  change Takes _ (((schema.given.toList.map encode).map Payload.bytes).map _) _ (name, schema)
  rw [← hset]
  refine takes_optional (fun given => (name, given.getD ({} : Schema))) ?_
  intro given hgiven
  have hinner := hlengths _ (List.mem_map_of_mem (Option.mem_toList.mpr hgiven))
  obtain rfl := eq_of_mem_given hgiven
  obtain ⟨room, rfl⟩ : ∃ smaller, room = smaller + 1 := ⟨room - 1, by omega⟩
  have hread := Schema.merge_encode (Nat.le_of_succ_le_succ hdepth) hinner
  simp [WireField.bytes?, descend, hread]

/-- A written entry is taken in under its name. -/
theorem Schema.addEntry_encode (schemas : NameMap Schema) {entry : String × Schema} {room : Nat}
    (hdepth : entry.2.depth + 2 ≤ room) (hlength : (encodeEntry entry).length < UInt64.size) :
    Schema.addEntry room schemas (encodeEntry entry) =
      some (NameMap.insert entry.1 entry.2 schemas) := by
  obtain ⟨room, rfl⟩ : ∃ smaller, room = smaller + 1 := ⟨room - 1, by omega⟩
  have hread := mergeEntry_encode (Nat.le_of_succ_le_succ hdepth) hlength
  simp [addEntry, descend, hread]

/-- The layout of a plugin's schemas. -/
def ProviderSchema.layout (schemas : ProviderSchema) : Layout := [
  (1, (schemas.provider.toList.map Schema.encode).map .bytes),
  (2, (schemas.resources.map Schema.encodeEntry).map .bytes),
  (3, (schemas.dataSources.map Schema.encodeEntry).map .bytes)]

/-- The bytes of a plugin's schemas are those of their layout. -/
theorem ProviderSchema.encode_eq (schemas : ProviderSchema) :
    schemas.encode = schemas.layout.write := by
  simp only [encode, layout, optionalField_eq, Layout.write_cons, Layout.write_nil,
    ← Layout.delimitedFields_eq, List.flatMap_map, List.append_nil, List.append_assoc]

/-- A plugin's schemas are read back with their maps put in order, if messages nest no deeper in
them than a reader may follow. -/
theorem ProviderSchema.merge_encode {schemas : ProviderSchema} {room : Nat}
    (hdepth : schemas.depth ≤ room) (hlength : schemas.encode.length < UInt64.size) :
    ProviderSchema.merge room {} schemas.encode = some {
      provider := schemas.provider
      resources := NameMap.ofList schemas.resources
      dataSources := NameMap.ofList schemas.dataSources } := by
  rw [depth, Nat.max_le, Nat.max_le, Schema.depthOfEntries_le_iff,
    Schema.depthOfEntries_le_iff] at hdepth
  obtain ⟨hprovider, hresources, hdataSources⟩ := hdepth
  rw [encode_eq] at hlength ⊢
  have hlegible : schemas.layout.Legible fun number => number == 2 || number == 3 :=
    .inner _ (by decide) <| .inner _ (by decide) <| .inner _ (by decide) .nil
  have hproviderLength := hlegible.length_lt hlength (.head _)
  have hresourceLength := List.forall_mem_map.mp <|
    hlegible.length_lt hlength (.tail _ (.head _))
  have hdataSourceLength := List.forall_mem_map.mp <|
    hlegible.length_lt hlength (.tail _ (.tail _ (.head _)))
  rw [merge]
  refine hlegible.mergeFields_write hlength ?_
  rcases schemas with ⟨provider, resources, dataSources⟩
  refine .cons (takes_optional (ProviderSchema.mk · [] []) ?_) <|
    .cons (takes_inner (ProviderSchema.mk provider · [])
      (fun map (entry : String × Schema) => NameMap.insert entry.1 entry.2 map) [] ?_) <|
    .cons (takes_inner (ProviderSchema.mk provider (NameMap.ofList resources) ·)
      (fun map (entry : String × Schema) => NameMap.insert entry.1 entry.2 map) [] ?_) <| .nil _
  · rintro schema ⟨⟩
    have hinner := hproviderLength _ (List.mem_map_of_mem (Option.mem_toList.mpr rfl))
    have hdepth : schema.depth + 1 ≤ room := hprovider
    obtain ⟨room, rfl⟩ : ∃ smaller, room = smaller + 1 := ⟨room - 1, by omega⟩
    have hread := Schema.merge_encode (Nat.le_of_succ_le_succ hdepth) hinner
    simp [WireField.bytes?, descend, hread]
  · intro map entry hentry
    have hread := Schema.addEntry_encode map (hresources entry hentry)
      (hresourceLength entry hentry)
    simp [WireField.bytes?, hread]
  · intro map entry hentry
    have hread := Schema.addEntry_encode map (hdataSources entry hentry)
      (hdataSourceLength entry hentry)
    simp [WireField.bytes?, hread]

/-- The same message with the entries of its maps listed in some order. -/
structure ProviderSchema.Lists (written schemas : ProviderSchema) : Prop where
  provider : written.provider = schemas.provider
  resources : written.resources.Perm schemas.resources
  dataSources : written.dataSources.Perm schemas.dataSources

/-- How deep messages nest does not depend on the order of entries. -/
theorem ProviderSchema.Lists.depth_le {written schemas : ProviderSchema} (h : written.Lists schemas)
    {room : Nat} (hdepth : schemas.depth ≤ room) : written.depth ≤ room := by
  simp only [depth, Nat.max_le, Schema.depthOfEntries_le_iff] at hdepth ⊢
  obtain ⟨hprovider, hresources, hdataSources⟩ := hdepth
  refine ⟨?_, fun entry hentry => ?_, fun entry hentry => ?_⟩
  · rw [h.provider]
    exact hprovider
  · exact hresources entry (h.resources.mem_iff.mp hentry)
  · exact hdataSources entry (h.dataSources.mem_iff.mp hentry)

/-- A plugin's schemas are read back from their entries in any order. -/
theorem ProviderSchema.Lists.merge_encode {written schemas : ProviderSchema}
    (h : written.Lists schemas) (hresources : NameMap.Ascending schemas.resources)
    (hdataSources : NameMap.Ascending schemas.dataSources) {room : Nat}
    (hdepth : schemas.depth ≤ room) (hlength : written.encode.length < UInt64.size) :
    ProviderSchema.merge room {} written.encode = some schemas := by
  rw [ProviderSchema.merge_encode (h.depth_le hdepth) hlength, h.provider,
    NameMap.ofList_eq_of_perm h.resources hresources,
    NameMap.ofList_eq_of_perm h.dataSources hdataSources]

end Message

namespace Wire

open Protobuf (maxDepth)

/-- The messages of named schemas stand under the same names. -/
theorem Schema.ascending_map_toMessage {entries : List (String × Schema)}
    (h : NameMap.Ascending entries) :
    NameMap.Ascending (entries.map fun (name, schema) => (name, schema.toMessage)) :=
  List.pairwise_map.mpr h

/-- Whatever a record holds, its message is read back from the message's bytes, if messages nest
no deeper in it than a reader follows. The number of the bytes must be one of 64 bits, as that of
any buffer is. For a plugin's schemas this is so in whatever order the entries of both maps are
written. -/
theorem decode_encode_toMessage :
    (∀ record : Attribute, record.toMessage.depth ≤ maxDepth →
      record.toMessage.encode.length < UInt64.size →
      Message.Attribute.decode record.toMessage.encode = some record.toMessage) ∧
    (∀ object : Object Attribute, object.toMessage.depth ≤ maxDepth →
      object.toMessage.encode.length < UInt64.size →
      Message.Object.decode object.toMessage.encode = some object.toMessage) ∧
    (∀ schema : Schema, schema.toMessage.depth ≤ maxDepth →
      schema.toMessage.encode.length < UInt64.size →
      Message.Schema.decode schema.toMessage.encode = some schema.toMessage) ∧
    (∀ schemas : ProviderSchema, NameMap.Ascending schemas.resources →
      NameMap.Ascending schemas.dataSources → schemas.toMessage.depth ≤ maxDepth →
      ∀ written : Message.ProviderSchema, written.Lists schemas.toMessage →
        written.encode.length < UInt64.size →
        Message.ProviderSchema.decode written.encode = some schemas.toMessage) := by
  refine ⟨?_, ?_, ?_, ?_⟩
  · intro record hdepth hlength
    exact Message.Attribute.merge_encode _ maxDepth hdepth hlength
  · intro object hdepth hlength
    exact Message.Object.merge_encode hdepth hlength
  · intro schema hdepth hlength
    exact Message.Schema.merge_encode hdepth hlength
  · intro schemas hresources hdataSources hdepth written hwritten hlength
    exact hwritten.merge_encode (Schema.ascending_map_toMessage hresources)
      (Schema.ascending_map_toMessage hdataSources) hdepth hlength

/-- A volume of the version -2 with a group of at least -1 elements, and a disk. -/
def disks : ProviderSchema where
  resources := [
    ("disk", { block := { deprecated := true } }),
    ("volume", {
      version := -2
      block := { attributes := [{
        name := "größe"
        nested := some {
          attributes := [{ name := "unit", type? := some (.list .string) }]
          nesting := .set
          minItems := -1 } }] } })]

/-- Its schemas are read back also where the volume is written before the disk. -/
theorem decode_encode_toMessage_disks :
    Message.ProviderSchema.decode
        { disks.toMessage with resources := disks.toMessage.resources.reverse }.encode =
      some disks.toMessage := by
  refine decode_encode_toMessage.2.2.2 disks (by decide) (by decide) (by decide) _
    ⟨rfl, List.reverse_perm _, .refl _⟩ ?_
  decide +kernel

end Wire

end PluginSchema
