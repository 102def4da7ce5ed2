import PluginSchema.Notation.Diagnostic
import PluginSchema.Proofs.Notation.Schema

/-!
# Reading undoes writing

The compact text of every authored value is read as the value, if no more containers nest in it
than a reader enters. That covers types, attributes with their parts, schemas, and what a
conversion is told and tells: capabilities, paths and diagnostics.
-/

namespace PluginSchema

open Json (Assigns Reader RecordField Value)

/-- A path is read back. -/
theorem Path.read_node (path : Path) {room : Nat} (hdepth : path.toJson.depth ≤ room) :
    read room path.toJson.node = .ok path := by
  obtain ⟨inner, rfl, -⟩ := Value.exists_room_of_depth_arr hdepth
  have hsteps : Json.readList Json.readString (inner + 1)
      (Value.arr (path.steps.map .str)).node = .ok path.steps :=
    Json.readList_node fun step _ => Json.readString_node step
  rw [read, toJson, hsteps]
  rfl

/-- A path fits. -/
theorem Path.fits_toJson (path : Path) : path.toJson.Fits := by
  have hitems : ∀ steps : List String, Value.ItemsFit (steps.map .str) := by
    intro steps
    induction steps with
    | nil => trivial
    | cons step rest ih => exact ⟨trivial, ih⟩
  exact hitems path.steps

/-- Capabilities are read back. -/
theorem Capabilities.read_node (capabilities : Capabilities) {room : Nat}
    (hdepth : capabilities.toJson.depth ≤ room) :
    read room capabilities.toJson.node = .ok capabilities := by
  obtain ⟨inner, rfl, -⟩ := Value.exists_room_of_depth_obj hdepth
  have hmembers : Assigns fields inner { version := 0 } [
      ("version", .int capabilities.version.toNat),
      ("nested_attributes", .bool capabilities.nestedAttributes)] capabilities :=
    .member rfl rfl (Json.readUInt32_node capabilities.version) rfl <|
    .member rfl rfl (Json.readBool_node capabilities.nestedAttributes) rfl <| .nil _
  have hrequired : Json.requiredNames fields = ["version"] := rfl
  exact hmembers.readRecord_node (by simp) (by simp [hrequired]) .direct _

/-- Capabilities fit. -/
theorem Capabilities.fits_toJson (capabilities : Capabilities) : capabilities.toJson.Fits := by
  have hversion := capabilities.version.toNat_lt
  have hsize : UInt64.size = 2 ^ 64 := rfl
  refine ⟨?_, trivial, trivial⟩
  rw [Value.Fits, hsize]
  omega

/-- A severity is read back. -/
theorem Severity.read_node (severity : Severity) (room : Nat) :
    read room severity.toJson.node = .ok severity := by
  cases severity <;> exact Json.readVariant_bare .direct rfl

/-- The members of a written diagnostic. -/
def Diagnostic.members (diagnostic : Diagnostic) : List (String × Value) :=
  [("severity", diagnostic.severity.toJson), ("summary", .str diagnostic.summary)]
    ++ Value.optional "detail" .str diagnostic.detail
    ++ Value.optional "attribute" .str diagnostic.location

/-- A diagnostic is read back. -/
theorem Diagnostic.read_node (diagnostic : Diagnostic) {room : Nat}
    (hdepth : diagnostic.toJson.depth ≤ room) :
    read room diagnostic.toJson.node = .ok diagnostic := by
  obtain ⟨inner, rfl, -⟩ := Value.exists_room_of_depth_obj hdepth
  have hsaid : Assigns fields inner (.error "")
      [("severity", diagnostic.severity.toJson), ("summary", .str diagnostic.summary)]
      ⟨diagnostic.severity, diagnostic.summary, none, none⟩ :=
    .member rfl rfl (diagnostic.severity.read_node inner) rfl <|
    .member rfl rfl (Json.readString_node diagnostic.summary) rfl <| .nil _
  have hdetail : Assigns fields inner ⟨diagnostic.severity, diagnostic.summary, none, none⟩
      (Value.optional "detail" .str diagnostic.detail)
      ⟨diagnostic.severity, diagnostic.summary, diagnostic.detail, none⟩ :=
    Assigns.optional rfl rfl (fun text _ => Json.readString_node text) rfl rfl
  have hlocation : Assigns fields inner
      ⟨diagnostic.severity, diagnostic.summary, diagnostic.detail, none⟩
      (Value.optional "attribute" .str diagnostic.location) diagnostic :=
    Assigns.optional rfl rfl (fun text _ => Json.readString_node text) rfl rfl
  have hkeys : (diagnostic.members.map Prod.fst).Sublist
      (["severity", "summary"] ++ ["detail"] ++ ["attribute"]) := by
    rw [members, List.map_append, List.map_append]
    exact ((List.Sublist.refl _).append (Value.keys_optional _ _ _)).append
      (Value.keys_optional _ _ _)
  have hrequired : Json.requiredNames fields = ["severity", "summary"] := rfl
  exact ((hsaid.append hdetail).append hlocation).readRecord_node (hkeys.nodup (by decide))
    (by simp [hrequired]) .direct _

/-- A diagnostic fits. -/
theorem Diagnostic.fits_toJson (diagnostic : Diagnostic) : diagnostic.toJson.Fits := by
  have htext (text : Option String) (t : String) (_ : t ∈ text) : (Value.str t).Fits := trivial
  have hrequired : ∀ entry ∈
      [("severity", diagnostic.severity.toJson), ("summary", .str diagnostic.summary)],
      entry.2.Fits := List.forall_mem_cons.mpr ⟨trivial, List.forall_mem_cons.mpr ⟨trivial, nofun⟩⟩
  refine Value.fits_obj ?_
  simp only [List.forall_mem_append]
  exact ⟨⟨hrequired, Value.fits_optional _ (htext _)⟩, Value.fits_optional _ (htext _)⟩

/-- The text that is written for `x` is read as `x`, if its containers nest no deeper than a reader
goes. -/
def ReadsBack {α : Type} (read : Reader α) (write : α → Value) (x : α) : Prop :=
  (write x).depth ≤ Json.maxDepth → Json.readText read (write x).text = .ok x

/-- A value whose node is read back is read back from its text. -/
theorem readsBack_of_node {α : Type} {read : Reader α} {write : α → Value} {x : α}
    (hfits : (write x).Fits)
    (h : (write x).depth ≤ Json.maxDepth → read Json.maxDepth (write x).node = .ok x) :
    ReadsBack read write x :=
  fun hdepth => (Json.readText_text read hfits).trans (h hdepth)

/-- Reading undoes writing for every authored value whose maps ascend. -/
theorem readText_toJson :
    (∀ type : AttributeType, type.Ordered →
      ReadsBack (AttributeType.read .direct) AttributeType.toJson type) ∧
    (∀ flags : Flags, ReadsBack (Flags.read .direct) Flags.toJson flags) ∧
    (∀ nesting : NestingMode, ReadsBack (NestingMode.read .direct) NestingMode.toJson nesting) ∧
    (∀ group : Group Attribute, NameMap.Ascending group.attributes →
      (∀ entry ∈ group.attributes, entry.2.Ordered) →
      ReadsBack (Attribute.readGroup .direct) Attribute.groupToJson group) ∧
    (∀ a : Attribute, a.Ordered → ReadsBack (Attribute.read .direct) Attribute.toJson a) ∧
    (∀ block : Block, block.Ordered → ReadsBack (Block.read .direct) Block.toJson block) ∧
    (∀ schema : Schema, schema.block.Ordered → ReadsBack Schema.read Schema.toJson schema) ∧
    (∀ schemas : ProviderSchema, schemas.Ordered →
      ReadsBack ProviderSchema.read ProviderSchema.toJson schemas) ∧
    (∀ capabilities : Capabilities,
      ReadsBack Capabilities.read Capabilities.toJson capabilities) ∧
    (∀ path : Path, ReadsBack Path.read Path.toJson path) ∧
    (∀ diagnostic : Diagnostic, ReadsBack Diagnostic.read Diagnostic.toJson diagnostic) :=
  ⟨fun type h => readsBack_of_node type.fits_toJson (AttributeType.read_node h .direct),
    fun flags => readsBack_of_node (Value.fits_obj flags.fits_members) (flags.read_node .direct),
    fun nesting => readsBack_of_node trivial fun _ => nesting.read_node .direct _,
    fun _ hascending hbelow =>
      readsBack_of_node (Attribute.fits_groupToJson fun entry _ => entry.2.fits_toJson)
        (Attribute.readGroup_node hascending hbelow .direct),
    fun a h => readsBack_of_node a.fits_toJson (Attribute.read_node h .direct),
    fun block h =>
      readsBack_of_node (Value.fits_obj block.fits_members) (Block.read_node h .direct),
    fun schema h => readsBack_of_node schema.fits_toJson (Schema.read_node h),
    fun schemas h => readsBack_of_node schemas.fits_toJson (ProviderSchema.read_node h),
    fun capabilities => readsBack_of_node capabilities.fits_toJson capabilities.read_node,
    fun path => readsBack_of_node path.fits_toJson path.read_node,
    fun diagnostic => readsBack_of_node diagnostic.fits_toJson diagnostic.read_node⟩

/-- A group whose names are those of members, or in need of escapes. -/
def Group.awkward : Group Attribute where
  mode := .set
  attributes := [("type", .ofType (.object [("\"\\\n\u0007é", .list .int64)]) .forOptional)]
  maxItems := 18446744073709551615

/-- A plugin whose names are those of members, or empty. -/
def ProviderSchema.awkward : ProviderSchema where
  provider := {
    version := 18446744073709551615
    block := {
      attributes := [
        ("", { nested := some {}, documentation := { description := some "" } }),
        ("attributes", .ofGroup .awkward .forComputed)]
      documentation := { deprecation := some "\u0000" } } }
  resources := [("version", {})]

/-- The maps of the plugin ascend. -/
theorem ProviderSchema.ordered_awkward : awkward.Ordered := by
  have htype : (AttributeType.object [("\"\\\n\u0007é", .list .int64)]).Ordered :=
    .object (by decide) (List.forall_mem_cons.mpr ⟨.list .int64, nofun⟩)
  have hempty : Attribute.Ordered
      { nested := some {}, documentation := { description := some "" } } :=
    .intro nofun (by decide) nofun
  have hbelow : ∀ entry ∈ Group.awkward.attributes, entry.2.Ordered :=
    List.forall_mem_cons.mpr ⟨Attribute.ordered_ofType htype .forOptional, nofun⟩
  have hgroup : (Attribute.ofGroup .awkward .forComputed).Ordered :=
    Attribute.ordered_ofGroup (by decide) hbelow .forComputed
  have hprovider : Block.Ordered awkward.provider.block :=
    ⟨by decide, List.forall_mem_cons.mpr ⟨hempty, List.forall_mem_cons.mpr ⟨hgroup, nofun⟩⟩⟩
  have hresource : Block.Ordered {} := ⟨by decide, nofun⟩
  exact ⟨hprovider, by decide, by decide, List.forall_mem_cons.mpr ⟨hresource, nofun⟩, nofun⟩

/-- The plugin is read back, and so is a type that nests as deep as a reader goes. -/
theorem readText_toJson_awkward :
    Json.readText ProviderSchema.read ProviderSchema.awkward.toJson.text =
      .ok ProviderSchema.awkward ∧
    Json.readText (AttributeType.read .direct)
        (Nat.repeat .list 127 .bool : AttributeType).toJson.text =
      .ok (Nat.repeat .list 127 .bool) := by
  have hlists (n : Nat) : (Nat.repeat .list n .bool : AttributeType).Ordered ∧
      (Nat.repeat .list n .bool : AttributeType).toJson.depth = n := by
    induction n with
    | zero => exact ⟨.bool, rfl⟩
    | succ n ih => exact ⟨.list ih.1, congrArg Nat.succ ((Nat.max_zero _).trans ih.2)⟩
  obtain ⟨htypes, -, -, -, -, -, -, hschemas, -⟩ := readText_toJson
  exact ⟨hschemas _ ProviderSchema.ordered_awkward (by decide),
    htypes _ (hlists 127).1 (Nat.le_of_eq (hlists 127).2)⟩

end PluginSchema
