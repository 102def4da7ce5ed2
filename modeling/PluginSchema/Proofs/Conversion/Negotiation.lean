import PluginSchema.Proofs.Conversion.Verdict
import PluginSchema.Proofs.Records

/-!
# One conversion for several protocol versions

Two versions with the same features give one result, but for the number in the error about groups.
What a version without groups carries is carried alike by every other, and holds no group. What a
version with groups carries is carried alike by one without them if no attribute of a block has a
group; else the first that has one is refused, whatever stands in the group.
-/

namespace PluginSchema

/-- The same error for another version. -/
def SchemaError.forVersion (version : UInt32) : SchemaError → SchemaError
  | unsupportedNesting path _ => unsupportedNesting path version
  | error => error

namespace Attribute

variable {capabilities other : Capabilities} {path : Path} {a : Attribute}

/-- Versions with the same features find the same fault, each under its own number. -/
theorem fault?_of_nestedAttributes_eq
    (h : capabilities.nestedAttributes = other.nestedAttributes) (path : Path) (a : Attribute) :
    a.fault? other path =
      (a.fault? capabilities path).map (SchemaError.forVersion other.version) := by
  unfold fault?
  rw [h]
  split_ifs <;> rfl

/-- All versions find the same fault in an attribute without a group. -/
theorem fault?_of_group?_eq_none (h : a.group? = none) (capabilities other : Capabilities)
    (path : Path) : a.fault? other path = a.fault? capabilities path := by
  simp [fault?, h]

/-- A version without groups refuses each attribute with a group for it. -/
theorem fault?_of_group? (hother : other.nestedAttributes = false) (h : a.group? ≠ none)
    (path : Path) : a.fault? other path = some (.unsupportedNesting path other.version) := by
  have hgroup : a.group?.isSome := Option.isSome_iff_ne_none.mpr h
  simp [fault?, hother, hgroup]

/-- What a version without groups does not refuse has no group. -/
theorem group?_eq_none_of_fault? (hcapabilities : capabilities.nestedAttributes = false)
    (h : a.fault? capabilities path = none) : a.group? = none := by
  by_contra hgroup
  rw [fault?_of_group? hcapabilities hgroup] at h
  cases h

/-- Below attributes without groups there are only these attributes. -/
theorem group?_eq_none_of_mem_nodesBelow {entries : List (String × Attribute)}
    (h : ∀ entry ∈ entries, entry.2.group? = none) {node : Node}
    (hnode : node ∈ nodesBelow entries) : node.value.group? = none := by
  obtain ⟨entry, hentry, inner, hinner, rfl⟩ := mem_nodesBelow.mp hnode
  have hchildren : entry.2.children = [] := group?_eq_none_iff.mp (h entry hentry)
  rw [nodes_eq, hchildren, nodesBelow, List.mem_singleton] at hinner
  rw [Node.below_value, hinner]
  exact h entry hentry

/-- A record without a group leads to itself only. -/
theorem nested_eq_none_of_leads {record target : Wire.Attribute} {steps : List String}
    (h : record.nested = none) (hleads : record.Leads steps target) : target.nested = none := by
  cases hleads with
  | here => exact h
  | step hchild _ => simp [Wire.Attribute.children, h] at hchild

end Attribute

namespace ProviderSchema

open Attribute (Node nodesBelow)
open Conversion (settle settle_map settle_eq_ok_iff)

variable {capabilities other : Capabilities} {schemas : ProviderSchema}
  {wires : Wire.ProviderSchema}

/-- The schemas of a plugin convert just if no attribute in a block has a fault, and to their
records. -/
theorem convert_eq_ok_iff_nodes :
    (schemas.convert capabilities).result = .ok wires ↔
      (∀ node ∈ nodesBelow schemas.attributes, node.fault? capabilities .root = none) ∧
        schemas.wire = wires := by
  rw [convert_result, settle_eq_ok_iff, List.findSome?_eq_none_iff]

/-- The schemas of a plugin convert to their records only. -/
theorem wire_eq_of_convert (h : (schemas.convert capabilities).result = .ok wires) :
    schemas.wire = wires := (convert_eq_ok_iff_nodes.mp h).2

/-- An attribute of a block is met on the walk through the blocks. -/
theorem mem_nodesBelow_attributes {entry : String × Attribute} (h : entry ∈ schemas.attributes) :
    ⟨[entry.1], entry.2⟩ ∈ nodesBelow schemas.attributes :=
  Attribute.mem_nodesBelow.mpr ⟨entry, h, ⟨[], entry.2⟩, by simp [Attribute.nodes_eq], rfl⟩

/-- Where all that is sent has no group, no version refuses it. -/
theorem convert_eq_ok_of_group?_eq_none
    (h : (schemas.convert capabilities).result = .ok wires)
    (hgroups : ∀ entry ∈ schemas.attributes, entry.2.group? = none) (other : Capabilities) :
    (schemas.convert other).result = .ok wires := by
  obtain ⟨hfaults, hwires⟩ := convert_eq_ok_iff_nodes.mp h
  refine convert_eq_ok_iff_nodes.mpr ⟨fun node hnode => ?_, hwires⟩
  have hgroup := Attribute.group?_eq_none_of_mem_nodesBelow hgroups hnode
  have hsame := Attribute.fault?_of_group?_eq_none hgroup capabilities other
  rw [Node.fault?, hsame]
  exact hfaults node hnode

/-- What converts for a version without groups has none. -/
theorem group?_eq_none_of_convert (hcapabilities : capabilities.nestedAttributes = false)
    (h : (schemas.convert capabilities).result = .ok wires) :
    ∀ entry ∈ schemas.attributes, entry.2.group? = none := by
  intro entry hentry
  have hfault := (convert_eq_ok_iff_nodes.mp h).1 _ (mem_nodesBelow_attributes hentry)
  exact Attribute.group?_eq_none_of_fault? hcapabilities hfault

end ProviderSchema

/-- All schemas of a plugin on the wire. -/
def Wire.ProviderSchema.all (wires : Wire.ProviderSchema) : List Wire.Schema :=
  wires.provider :: (wires.resources.map Prod.snd ++ wires.dataSources.map Prod.snd)

/-- The record of each attribute of a block stands in a block. -/
theorem ProviderSchema.exists_entry_of_mem_wire {schemas : ProviderSchema} {schema : Wire.Schema}
    (hschema : schema ∈ schemas.wire.all) {record : Wire.Attribute}
    (hrecord : record ∈ schema.block.attributes) :
    ∃ entry ∈ schemas.attributes, record = entry.2.wire entry.1 := by
  have hall : schemas.wire.all = schemas.all.map Schema.wire := by
    simp [Wire.ProviderSchema.all, wire, all, Function.comp_def]
  rw [hall, List.mem_map] at hschema
  obtain ⟨source, hsource, rfl⟩ := hschema
  rw [Schema.wire, Schema.record, Attribute.wireAll_eq_map, List.mem_map] at hrecord
  obtain ⟨entry, hentry, rfl⟩ := hrecord
  exact ⟨entry, List.mem_flatMap.mpr ⟨source, hsource, hentry⟩, rfl⟩

namespace ProviderSchema

open Attribute (Node nodesBelow)
open Conversion (settle_map settle_some)

variable {capabilities other : Capabilities} {schemas : ProviderSchema}
  {wires : Wire.ProviderSchema}

/-- Versions with the same features give one result, but for the number in the error. -/
theorem convert_of_nestedAttributes_eq
    (h : capabilities.nestedAttributes = other.nestedAttributes) (schemas : ProviderSchema) :
    (schemas.convert other).result =
      (schemas.convert capabilities).result.mapError (SchemaError.forVersion other.version) := by
  have hfault : Node.fault? other .root = fun node =>
      (node.fault? capabilities .root).map (SchemaError.forVersion other.version) := by
    funext node
    exact Attribute.fault?_of_nestedAttributes_eq h _ node.value
  rw [convert_result, convert_result, hfault, ← settle_map, List.map_findSome?]
  rfl

/-- The wire form of schemas without groups has none at any depth. -/
theorem nested_eq_none_of_mem_wire (h : ∀ entry ∈ schemas.attributes, entry.2.group? = none)
    {schema : Wire.Schema} (hschema : schema ∈ schemas.wire.all) {record target : Wire.Attribute}
    (hrecord : record ∈ schema.block.attributes) {steps : List String}
    (hleads : record.Leads steps target) : target.nested = none := by
  obtain ⟨⟨name, a⟩, hentry, rfl⟩ := exists_entry_of_mem_wire hschema hrecord
  refine Attribute.nested_eq_none_of_leads ?_ hleads
  rw [Attribute.wire_eq, Attribute.record, h _ hentry, Option.map_none]

/-- A version without groups refuses the first attribute of a block that has one, if all the
schemas convert for some other version. -/
theorem convert_eq_error_of_group? (hother : other.nestedAttributes = false)
    (h : (schemas.convert capabilities).result = .ok wires)
    {before after : List (String × Attribute)} {name : String} {a : Attribute}
    (hsplit : schemas.attributes = before ++ (name, a) :: after)
    (hbefore : ∀ entry ∈ before, entry.2.group? = none) (ha : a.group? ≠ none) :
    (schemas.convert other).result = .error (.unsupportedNesting ⟨[name]⟩ other.version) := by
  have hnodes : nodesBelow schemas.attributes =
      nodesBelow before ++ nodesBelow ((name, a) :: after) := by
    rw [hsplit, Attribute.nodesBelow_append]
  -- what stands before has no group, so that both versions treat it alike
  have hearlier : (nodesBelow before).findSome? (Node.fault? other .root) = none := by
    rw [List.findSome?_eq_none_iff]
    intro node hnode
    have hgroup := Attribute.group?_eq_none_of_mem_nodesBelow hbefore hnode
    rw [Node.fault?, Attribute.fault?_of_group?_eq_none hgroup capabilities other]
    exact (convert_eq_ok_iff_nodes.mp h).1 node (by simp [hnodes, hnode])
  have hfault : (Node.below name ⟨[], a⟩).fault? other .root =
      some (.unsupportedNesting ⟨[name]⟩ other.version) :=
    Attribute.fault?_of_group? hother ha _
  rw [convert_result, hnodes, List.findSome?_append, hearlier, nodesBelow, Attribute.nodes_eq,
    List.map_cons, List.cons_append, List.findSome?_cons, hfault]
  rfl

/-- Conversion never looks at the number of a version, and it never leaves a group out. Versions
with the same features give one result, but for the number in the error about groups. What a
version without groups carries has none, and all versions carry it alike. What a version with
groups carries is carried alike by one without them just if no attribute of a block has a group;
else the latter refuses the first that has one, with its own number and at the path of one step. -/
theorem convert_capabilities (schemas : ProviderSchema) (capabilities other : Capabilities) :
    (capabilities.nestedAttributes = other.nestedAttributes →
      (schemas.convert other).result =
        (schemas.convert capabilities).result.mapError (SchemaError.forVersion other.version)) ∧
    (capabilities.nestedAttributes = false → ∀ wires,
      (schemas.convert capabilities).result = .ok wires →
        (schemas.convert other).result = .ok wires ∧
        ∀ schema ∈ wires.all, ∀ record ∈ schema.block.attributes, ∀ steps target,
          record.Leads steps target → target.nested = none) ∧
    (capabilities.nestedAttributes = true → other.nestedAttributes = false → ∀ wires,
      (schemas.convert capabilities).result = .ok wires →
        ((schemas.convert other).result = .ok wires ∧
          ∀ entry ∈ schemas.attributes, entry.2.group? = none) ∨
        ∃ before name a after, schemas.attributes = before ++ (name, a) :: after ∧
          (∀ entry ∈ before, entry.2.group? = none) ∧ a.group? ≠ none ∧
          (schemas.convert other).result =
            .error (.unsupportedNesting ⟨[name]⟩ other.version)) := by
  refine ⟨fun h => convert_of_nestedAttributes_eq h schemas, fun hcapabilities wires h => ?_,
    fun _ hother wires h => ?_⟩
  · have hgroups := group?_eq_none_of_convert hcapabilities h
    refine ⟨convert_eq_ok_of_group?_eq_none h hgroups other, ?_⟩
    obtain rfl : schemas.wire = wires := (convert_eq_ok_iff_nodes.mp h).2
    intro schema hschema record hrecord steps target hleads
    exact nested_eq_none_of_mem_wire hgroups hschema hrecord hleads
  · -- either no attribute of a block has a group, or there is a first one
    cases hfind : schemas.attributes.find? fun entry => entry.2.group?.isSome with
    | none =>
      have hgroups : ∀ entry ∈ schemas.attributes, entry.2.group? = none := by
        simpa using hfind
      exact .inl ⟨convert_eq_ok_of_group?_eq_none h hgroups other, hgroups⟩
    | some entry =>
      obtain ⟨name, a⟩ := entry
      obtain ⟨ha, before, after, hsplit, hbefore⟩ := List.find?_eq_some_iff_append.mp hfind
      replace ha : a.group? ≠ none := Option.isSome_iff_ne_none.mp ha
      replace hbefore : ∀ entry ∈ before, entry.2.group? = none := by simpa using hbefore
      exact .inr ⟨before, name, a, after, hsplit, hbefore, ha,
        convert_eq_error_of_group? hother h hsplit hbefore ha⟩

/-- A plugin with disks in order and volumes that have a group of tags. -/
def shelves : ProviderSchema where
  resources := [
    ("disk", { block := { attributes := [("size", .ofType .number .forRequired)] } }),
    ("volume", { block := { attributes := [
      ("size", .ofType .number .forRequired),
      ("tags", .ofGroup { attributes := [("name", .ofType .string .forRequired)] }
        .forOptional)] } })]

/-- The tags go to no version without groups, and the same schemas without volumes go to all. -/
theorem convert_capabilities_shelves :
    (shelves.convert { version := 7, nestedAttributes := true }).result = .ok shelves.wire ∧
    (shelves.convert .v5).result = .error (.unsupportedNesting ⟨["tags"]⟩ 5) ∧
    (ProviderSchema.convert .v6 { resources := shelves.resources.take 1 }).result =
      (ProviderSchema.convert .v5 { resources := shelves.resources.take 1 }).result := by
  have hshelves : (shelves.convert .v6).result = .ok shelves.wire := rfl
  refine ⟨?_, ?_, ?_⟩
  · rw [(convert_capabilities shelves .v6 { version := 7, nestedAttributes := true }).1 rfl,
      hshelves]
    rfl
  · obtain ⟨hresult, -⟩ | ⟨before, name, a, after, hsplit, hbefore, ha, herror⟩ :=
      (convert_capabilities shelves .v6 .v5).2.2 rfl rfl _ hshelves
    · cases hresult
    · -- the name is the third one, as the two before it have no group
      obtain rfl : name = "tags" := by
        match before, hsplit, hbefore with
        | [], hsplit, _ =>
          cases hsplit
          exact absurd rfl ha
        | [_], hsplit, _ =>
          cases hsplit
          exact absurd rfl ha
        | [_, _], hsplit, _ =>
          cases hsplit
          rfl
        | [_, _, _], hsplit, _ => cases hsplit
      exact herror
  · exact ((convert_capabilities { resources := shelves.resources.take 1 } .v5 .v6).2.1 rfl _
      rfl).1

end ProviderSchema

end PluginSchema
