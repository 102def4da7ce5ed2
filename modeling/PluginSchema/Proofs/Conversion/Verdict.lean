import PluginSchema.Proofs.Conversion.AllOrNothing

/-!
# What decides a result

A tree has one record, which depends neither on the path of the tree nor on the protocol version:
it is put together whether or not anything in the tree may be sent. A conversion ends with the
first fault on its walk, and with that record if there is none. So path and version can show in a
result only by a fault.
-/

namespace PluginSchema

namespace Conversion

variable {α : Type}

/-- The result of looking for faults before a value: the first fault, or the value. -/
def settle (fault : Option SchemaError) (value : α) : Except SchemaError α :=
  match fault with
  | some error => .error error
  | none => .ok value

@[simp] theorem settle_none (value : α) : settle none value = .ok value := rfl

@[simp] theorem settle_some (error : SchemaError) (value : α) :
    settle (some error) value = .error error := rfl

theorem settle_eq_ok_iff {fault : Option SchemaError} {value other : α} :
    settle fault value = .ok other ↔ fault = none ∧ value = other := by
  cases fault <;> simp

/-- A change of the fault is a change of the error. -/
theorem settle_map (fault : Option SchemaError) (change : SchemaError → SchemaError) (value : α) :
    settle (fault.map change) value = (settle fault value).mapError change := by
  cases fault <;> rfl

/-- A run that can yield one value only yields it unless it ends with an error. -/
theorem Run.result_eq_settle {run : Run α} {value : α}
    (h : ∀ other, run.result = .ok other → value = other) :
    run.result = settle run.error? value := by
  cases hresult : run.result with
  | ok other => rw [error?_eq_none_iff.mpr ⟨other, hresult⟩, settle_none, h other hresult]
  | error error => rw [error?_eq_some_iff.mpr hresult, settle_some]

end Conversion

open Conversion (settle Run)

namespace Attribute

variable {capabilities : Capabilities} {path : Path}

mutual

/-- The record of a tree of attributes, whether or not it may be sent. -/
def wire (name : String) : Attribute → Wire.Attribute
  | ⟨type, none, flags, texts⟩ => record name ⟨type, none, flags, texts⟩ []
  | ⟨type, some ⟨mode, attributes, low, high⟩, flags, texts⟩ =>
    record name ⟨type, some ⟨mode, attributes, low, high⟩, flags, texts⟩ (wireAll attributes)

/-- The records of trees under names. -/
def wireAll : List (String × Attribute) → List Wire.Attribute
  | [] => []
  | (name, a) :: rest => a.wire name :: wireAll rest

end

/-- The record of a tree is put together from those of the children. -/
theorem wire_eq (name : String) (a : Attribute) :
    a.wire name = a.record name (wireAll a.children) := by
  rcases a with ⟨type, _ | ⟨mode, attributes, low, high⟩, flags, texts⟩ <;>
    simp [wire, wireAll]

theorem wireAll_eq_map (entries : List (String × Attribute)) :
    wireAll entries = entries.map fun entry => entry.2.wire entry.1 := by
  induction entries with
  | nil => rfl
  | cons entry rest ih => rw [wireAll, ih, List.map_cons]

/-- Trees convert to their records only, if this is so for each of them. -/
theorem wireAll_eq_of_forall {entries : List (String × Attribute)} {records : List Wire.Attribute}
    (h : (convertAll capabilities path entries).result = .ok records)
    (hentries : ∀ entry ∈ entries, ∀ record,
      (entry.2.convert capabilities entry.1 (path.child entry.1)).result = .ok record →
        entry.2.wire entry.1 = record) :
    wireAll entries = records := by
  rw [convertAll_eq_ok_iff] at h
  induction h with
  | nil => rfl
  | cons hfirst _ ih =>
    obtain ⟨hentry, hrest⟩ := List.forall_mem_cons.mp hentries
    rw [wireAll, hentry _ hfirst, ih hrest]

/-- A tree converts to its record only. -/
theorem wire_eq_of_convert {name : String} {a : Attribute} {record : Wire.Attribute}
    (h : (a.convert capabilities name path).result = .ok record) : a.wire name = record := by
  induction a using childrenInduction generalizing name path record with
  | step a ih =>
    obtain ⟨-, nested, hnested, rfl⟩ := convert_eq_ok_iff.mp h
    have hchildren : wireAll a.children = nested :=
      wireAll_eq_of_forall hnested fun entry hentry _ hconvert => ih entry hentry hconvert
    rw [wire_eq, hchildren]

/-- The conversion of a tree ends with the first fault in it, or else with its record. -/
theorem convert_result (capabilities : Capabilities) (name : String) (path : Path) (a : Attribute) :
    (a.convert capabilities name path).result =
      settle (a.nodes.findSome? (Node.fault? capabilities path)) (a.wire name) := by
  rw [← convert_error?_eq_findSome? capabilities name]
  exact Run.result_eq_settle fun _ => wire_eq_of_convert

/-- The error of trees is the first fault on the walk through them. -/
theorem convertAll_error?_eq_findSome? (capabilities : Capabilities) (path : Path)
    (entries : List (String × Attribute)) :
    (convertAll capabilities path entries).error? =
      (nodesBelow entries).findSome? (Node.fault? capabilities path) := by
  rw [convertAll_error?]
  refine findSome?_nodesBelow fun entry _ => ?_
  simp only [convert_error?_eq_findSome?, Node.below_fault?]

/-- The walk through lists of trees is the walks through the lists. -/
theorem nodesBelow_append (entries others : List (String × Attribute)) :
    nodesBelow (entries ++ others) = nodesBelow entries ++ nodesBelow others := by
  induction entries with
  | nil => rfl
  | cons entry rest ih => rw [List.cons_append, nodesBelow, nodesBelow, ih, List.append_assoc]

/-- The walk through the trees of several lists is the walks through the lists. -/
theorem nodesBelow_flatMap {α : Type} (items : List α) (entries : α → List (String × Attribute)) :
    nodesBelow (items.flatMap entries) = items.flatMap fun item => nodesBelow (entries item) := by
  induction items with
  | nil => rfl
  | cons item rest ih => rw [List.flatMap_cons, nodesBelow_append, ih, List.flatMap_cons]

end Attribute

/-- The record of a block, whether or not it may be sent. -/
def Block.wire (block : Block) : Wire.Block := block.record (Attribute.wireAll block.attributes)

/-- The conversion of a block ends with the first fault in it, or else with its record. -/
theorem Block.convert_result (capabilities : Capabilities) (path : Path) (block : Block) :
    (block.convert capabilities path).result =
      settle ((Attribute.nodesBelow block.attributes).findSome?
        (Attribute.Node.fault? capabilities path)) block.wire := by
  rw [← Attribute.convertAll_error?_eq_findSome?, ← convert_error?]
  refine Run.result_eq_settle fun record hrecord => ?_
  obtain ⟨attributes, hattributes, rfl⟩ := convert_eq_ok_iff.mp hrecord
  have hrecords : Attribute.wireAll block.attributes = attributes :=
    Attribute.wireAll_eq_of_forall hattributes fun _ _ _ => Attribute.wire_eq_of_convert
  rw [Block.wire, hrecords]

/-- The record of a schema, whether or not it may be sent. -/
def Schema.wire (schema : Schema) : Wire.Schema :=
  schema.record (Attribute.wireAll schema.block.attributes)

/-- A schema converts to its record only. -/
theorem Schema.wire_eq_of_convert {capabilities : Capabilities} {schema : Schema}
    {wire : Wire.Schema} (h : (schema.convert capabilities).result = .ok wire) :
    schema.wire = wire := by
  obtain ⟨attributes, hattributes, rfl⟩ := convert_eq_ok_iff.mp h
  have hrecords : Attribute.wireAll schema.block.attributes = attributes :=
    Attribute.wireAll_eq_of_forall hattributes fun _ _ _ => Attribute.wire_eq_of_convert
  rw [Schema.wire, hrecords]

namespace ProviderSchema

/-- The records of a plugin's schemas, whether or not they may be sent. -/
def wire (schemas : ProviderSchema) : Wire.ProviderSchema where
  provider := schemas.provider.wire
  resources := schemas.resources.map fun entry => (entry.1, entry.2.wire)
  dataSources := schemas.dataSources.map fun entry => (entry.1, entry.2.wire)

/-- The attributes of all blocks, in the order in which they are converted. -/
def attributes (schemas : ProviderSchema) : List (String × Attribute) :=
  schemas.all.flatMap fun schema => schema.block.attributes

/-- Named schemas convert to their records only. -/
theorem map_wire_eq_of_convertAll {capabilities : Capabilities}
    {announce : String → Conversion.Event} {entries : List (String × Schema)}
    {wires : List (String × Wire.Schema)}
    (h : (Schema.convertAll capabilities announce entries).result = .ok wires) :
    entries.map (fun entry => (entry.1, entry.2.wire)) = wires := by
  rw [Schema.convertAll_eq_ok_iff] at h
  induction h with
  | nil => rfl
  | cons hfirst _ ih =>
    obtain ⟨hconvert, hname⟩ := hfirst
    rw [List.map_cons, ih, Schema.wire_eq_of_convert hconvert, hname]

/-- The error of a plugin's schemas is the first fault on the walk through all blocks. -/
theorem convert_error?_eq_findSome? (capabilities : Capabilities) (schemas : ProviderSchema) :
    (schemas.convert capabilities).error? =
      (Attribute.nodesBelow schemas.attributes).findSome?
        (Attribute.Node.fault? capabilities .root) := by
  rw [convert_error?, attributes, Attribute.nodesBelow_flatMap]
  induction schemas.all with
  | nil => rfl
  | cons schema rest ih =>
    rw [List.findSome?_cons, List.flatMap_cons, List.findSome?_append, ih, Schema.convert_error?,
      Attribute.convertAll_error?_eq_findSome?]
    cases List.findSome? _ (Attribute.nodesBelow schema.block.attributes) <;> rfl

/-- The conversion of a plugin's schemas ends with the first fault in a block, or else with their
records. -/
theorem convert_result (capabilities : Capabilities) (schemas : ProviderSchema) :
    (schemas.convert capabilities).result =
      settle ((Attribute.nodesBelow schemas.attributes).findSome?
        (Attribute.Node.fault? capabilities .root)) schemas.wire := by
  rw [← convert_error?_eq_findSome?]
  refine Run.result_eq_settle fun wires hwires => ?_
  rcases wires with ⟨provider, resources, dataSources⟩
  obtain ⟨hprovider, hresources, hdataSources⟩ := convert_eq_ok_iff.mp hwires
  rw [wire, Schema.wire_eq_of_convert hprovider, map_wire_eq_of_convertAll hresources,
    map_wire_eq_of_convertAll hdataSources]

end ProviderSchema

end PluginSchema
