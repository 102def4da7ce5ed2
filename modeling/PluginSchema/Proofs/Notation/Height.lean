import PluginSchema.Notation.Schema
import PluginSchema.Proofs.Json.Yield
import PluginSchema.Proofs.Ordered

/-!
# How high read schemas are

Attributes nest in the groups of attributes. In a document each level of them takes three
containers: the attribute, its group, and the map of the attributes in the group, whether the group
is written as an object or as an array. So the room that a reader has for containers bounds the
height of what it reads, and a schema that is read is not very high.
-/

namespace PluginSchema

open Json (Inside Mode RecordField Yields)

namespace Attribute

mutual

/-- How many levels of attributes nest in an attribute. -/
def height : Attribute → Nat
  | ⟨_, none, _, _⟩ => 0
  | ⟨_, some ⟨_, attributes, _, _⟩, _, _⟩ => heightBelow attributes

/-- How many levels of attributes there are from the given ones on. -/
def heightBelow : List (String × Attribute) → Nat
  | [] => 0
  | (_, a) :: rest => max (a.height + 1) (heightBelow rest)

end

/-- The levels in an attribute are those from its children on. -/
theorem height_eq (a : Attribute) : a.height = heightBelow a.children := by
  rcases a with ⟨type, _ | ⟨mode, attributes, low, high⟩, flags, texts⟩ <;>
    simp [height, heightBelow]

theorem heightBelow_le_iff {entries : List (String × Attribute)} {levels : Nat} :
    heightBelow entries ≤ levels ↔ ∀ entry ∈ entries, entry.2.height + 1 ≤ levels := by
  induction entries with
  | nil => simp [heightBelow]
  | cons entry rest ih => rw [heightBelow, Nat.max_le, ih, List.forall_mem_cons]

/-- The height is that of the group. -/
theorem height_congr {a b : Attribute} (h : a.nested = b.nested) : a.height = b.height := by
  rw [height_eq, height_eq, children, children, group?, group?, h]

/-- Where three containers are left for each level in each entry, three are left for all levels. -/
theorem three_mul_heightBelow_le {entries : List (String × Attribute)} {room : Nat}
    (h : ∀ entry ∈ entries, 3 * entry.2.height + 3 ≤ room) : 3 * heightBelow entries ≤ room := by
  have hlevels : heightBelow entries ≤ room / 3 := by
    rw [heightBelow_le_iff]
    intro entry hentry
    have hentry := h entry hentry
    omega
  omega

end Attribute

/-- The texts of a record keep a property that does not look at them. -/
theorem Documentation.keeps_fields {α : Type} {change : (Documentation → Documentation) → α → α}
    {P : α → Prop} (h : ∀ f a, P a → P (change f a)) (room : Nat) :
    ∀ field ∈ Documentation.fields change, field.Keeps room P := by
  simp only [fields, List.forall_mem_cons]
  exact ⟨RecordField.keeps_of_set fun a _ => h _ a, RecordField.keeps_of_set fun a _ => h _ a,
    RecordField.keeps_of_set fun a _ => h _ a, nofun⟩

namespace Attribute

variable {child : Json.Reader Attribute}

/-- In a map three containers are left for each level, if its entries leave them. -/
theorem readMap_yields (h : Yields child fun room a => 3 * a.height + 1 ≤ room) :
    Yields (Json.readMap child) fun room entries => 3 * heightBelow entries ≤ room + 1 := by
  refine Yields.mono h.map ?_
  rintro _ entries ⟨-, room, rfl, hentries⟩
  apply three_mul_heightBelow_le
  intro entry hentry
  have hentry := hentries entry hentry
  omega

/-- In a group three containers are left for each level, if its attributes leave them. -/
theorem readGroup_yields (h : Yields child fun room a => 3 * a.height + 1 ≤ room) (mode : Mode) :
    Yields (Group.read mode child) fun room group => 3 * heightBelow group.attributes ≤ room := by
  have hempty (room : Nat) : 3 * heightBelow ({} : Group Attribute).attributes ≤ room + 1 :=
    Nat.zero_le _
  have hfields (room : Nat) : ∀ field ∈ Group.fields mode child, field.Keeps room fun group =>
      3 * heightBelow group.attributes ≤ room + 1 := by
    simp only [Group.fields, List.forall_mem_cons]
    exact ⟨RecordField.keeps_of_set fun _ _ => id,
      RecordField.keeps_of (readMap_yields h) fun _ _ _ => id,
      RecordField.keeps_of_set fun _ _ => id, RecordField.keeps_of_set fun _ _ => id, nofun⟩
  refine Yields.mono (Yields.record hempty hfields mode _) ?_
  rintro _ group ⟨room, rfl, hgroup⟩
  exact hgroup

/-- What is read for an attribute itself leaves three containers for each level, if the attributes
nested in it leave them. -/
theorem keeps_fields (h : Yields child fun room a => 3 * a.height + 1 ≤ room) (mode : Mode)
    (room : Nat) :
    ∀ field ∈ fields mode child, field.Keeps room fun a => 3 * a.height ≤ room := by
  have hsame {a b : Attribute} (hnested : a.nested = b.nested) (ha : 3 * a.height ≤ room) :
      3 * b.height ≤ room := height_congr hnested ▸ ha
  rw [fields, List.forall_mem_append, List.forall_mem_cons, List.forall_mem_cons]
  refine ⟨⟨?_, ?_, nofun⟩, ?_⟩
  · exact RecordField.keeps_of_set fun a _ => hsame rfl
  · refine RecordField.keeps_of (readGroup_yields h mode).optional fun a nested _ hnested => ?_
    rw [height_eq]
    cases nested with
    | none => exact Nat.zero_le _
    | some group =>
      rw [children_of_nested_some]
      exact hnested group rfl
  · refine Documentation.keeps_fields (fun _ a => ?_) room
    exact hsame rfl

/-- An attribute takes a container for itself and leaves three for each level in it. -/
theorem readWithin_yields (mode : Mode) : (levels : Nat) →
    Yields (readWithin mode levels) fun room a => 3 * a.height + 1 ≤ room
  | 0 => nofun
  | levels + 1 => by
    have hempty (room : Nat) : 3 * height {} ≤ room := Nat.zero_le room
    have hown : Yields
        (Json.readMerged "Attribute" (fields mode (readWithin mode levels)) {} Flags.fields {})
        (Inside fun room records => 3 * records.1.height ≤ room) :=
      Yields.merged_fst hempty (keeps_fields (readWithin_yields mode levels) mode) _
    intro room node a hread
    obtain ⟨⟨own, flags⟩, hrecords, ha⟩ := Json.Reading.bind_eq_ok_iff.mp hread
    cases ha
    obtain ⟨room, rfl, hheight⟩ := hown room node (own, flags) hrecords
    rw [height_congr (show Attribute.nested { own with flags } = own.nested from rfl)]
    exact Nat.succ_le_succ hheight

/-- An attribute takes a container for itself and leaves three for each level in it. -/
theorem read_yields (mode : Mode) :
    Yields (read mode) fun room a => 3 * a.height + 1 ≤ room :=
  fun room => readWithin_yields mode (room + 1) room

end Attribute

/-- How many levels of attributes there are in a schema. -/
def Schema.height (schema : Schema) : Nat := Attribute.heightBelow schema.block.attributes

/-- What is read for a block leaves three containers for each level of attributes in it. -/
theorem Block.keeps_fields (mode : Mode) (room : Nat) :
    ∀ field ∈ fields mode, field.Keeps room fun block =>
      3 * Attribute.heightBelow block.attributes ≤ room + 1 := by
  rw [fields, List.forall_mem_cons]
  refine ⟨?_, Documentation.keeps_fields (fun _ _ => ?_) room⟩
  · exact RecordField.keeps_of (Attribute.readMap_yields (Attribute.read_yields mode))
      fun _ _ _ => id
  · exact id

/-- A schema leaves three containers for each level of attributes in it. -/
theorem Schema.read_yields : Yields read fun room schema => 3 * schema.height ≤ room := by
  have hempty (room : Nat) : 3 * Attribute.heightBelow ({} : Block).attributes ≤ room + 1 :=
    Nat.zero_le _
  have hblock : Yields (Json.readMerged "Schema" fields {} (Block.fields .buffered) {})
      (Inside fun room records => 3 * Attribute.heightBelow records.2.attributes ≤ room + 1) :=
    Yields.merged_snd hempty (Block.keeps_fields .buffered) _
  intro room node schema hread
  obtain ⟨⟨own, block⟩, hrecords, hschema⟩ := Json.Reading.bind_eq_ok_iff.mp hread
  cases hschema
  obtain ⟨room, rfl, hheight⟩ := hblock room node (own, block) hrecords
  exact hheight

/-- A map of schemas is in order, and its schemas leave three containers for each level of
attributes, and one for the map. -/
def Schema.MapFits (room : Nat) (schemas : NameMap Schema) : Prop :=
  schemas.Ascending ∧ ∀ entry ∈ schemas, 3 * entry.2.height + 1 ≤ room

/-- A map of schemas fits what its reader was allowed. -/
theorem Schema.readMap_yields : Yields (Json.readMap read) MapFits := by
  refine Yields.mono read_yields.map ?_
  rintro _ entries ⟨hascending, room, rfl, hentries⟩
  exact ⟨hascending, fun entry hentry => Nat.succ_le_succ (hentries entry hentry)⟩

namespace ProviderSchema

/-- The schemas of a plugin that fit what a reader was allowed inside their container. -/
structure Fits (room : Nat) (schemas : ProviderSchema) : Prop where
  provider : 3 * schemas.provider.height ≤ room
  resources : Schema.MapFits room schemas.resources
  dataSources : Schema.MapFits room schemas.dataSources

/-- What is read for the schemas of a plugin fits what the reader was allowed. -/
theorem keeps_fields (room : Nat) : ∀ field ∈ fields, field.Keeps room (Fits room) := by
  simp only [fields, List.forall_mem_cons]
  refine ⟨?_, ?_, ?_, nofun⟩
  · exact RecordField.keeps_of Schema.read_yields fun _ _ h hprovider =>
      ⟨hprovider, h.resources, h.dataSources⟩
  · exact RecordField.keeps_of Schema.readMap_yields fun _ _ h hresources =>
      ⟨h.provider, hresources, h.dataSources⟩
  · exact RecordField.keeps_of Schema.readMap_yields fun _ _ h hdataSources =>
      ⟨h.provider, h.resources, hdataSources⟩

/-- The schemas of a plugin fit what their reader was allowed. -/
theorem read_yields : Yields read (Inside Fits) := by
  have hnone (room : Nat) : Schema.MapFits room [] := ⟨List.Pairwise.nil, nofun⟩
  have hempty (room : Nat) : Fits room {} := ⟨Nat.zero_le room, hnone room, hnone room⟩
  exact Yields.record hempty keeps_fields .direct _

/-- The schemas that a text holds fit what a document may nest. -/
theorem fits_of_readText {text : String} {schemas : ProviderSchema}
    (h : Json.readText read text = .ok schemas) : schemas.Fits (Json.maxDepth - 1) := by
  obtain ⟨value, hvalue, hrest⟩ := Json.Reading.bind_eq_ok_iff.mp h
  obtain rfl : value = schemas := by
    split at hrest <;> cases hrest
    rfl
  obtain ⟨room, hroom, hfits⟩ := read_yields _ _ _ hvalue
  obtain rfl : room = Json.maxDepth - 1 := by omega
  exact hfits

end ProviderSchema

end PluginSchema
