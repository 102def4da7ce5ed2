import PluginSchema.Notation.Attribute
import PluginSchema.Proofs.Json.Record
import PluginSchema.Proofs.Notation.AttributeType

/-!
# Attributes are read back

A written attribute is read as the attribute. Its flags stand among its own members and are kept
aside until all of those are read; no flag has the name of a member, so each finds its place. What
is left out is what a record has by default.
-/

namespace PluginSchema

open Json (Assigns Merges Mode Reader RecordField Value)

/-- A nesting mode is read back. -/
theorem NestingMode.read_node (nesting : NestingMode) (mode : Mode) (room : Nat) :
    read mode room nesting.toJson.node = .ok nesting := by
  cases nesting <;> exact Json.readVariant_bare mode rfl

namespace Flags

/-- The members of flags are assigned to them. -/
theorem assigns_members (flags : Flags) (room : Nat) :
    Assigns fields room {} flags.members flags :=
  .member rfl rfl (Json.readBool_node flags.required) rfl <|
  .member rfl rfl (Json.readBool_node flags.optional) rfl <|
  .member rfl rfl (Json.readBool_node flags.computed) rfl <|
  .member rfl rfl (Json.readBool_node flags.sensitive) rfl <| .nil _

/-- Flags fit. -/
theorem fits_members (flags : Flags) : ∀ entry ∈ flags.members, entry.2.Fits := by
  simp [members, Value.Fits]

/-- Flags that stand alone are read back. -/
theorem read_node (flags : Flags) (mode : Mode) {room : Nat} (hdepth : flags.toJson.depth ≤ room) :
    read mode room flags.toJson.node = .ok flags := by
  obtain ⟨inner, rfl, -⟩ := Value.exists_room_of_depth_obj hdepth
  exact (flags.assigns_members inner).readRecord_node (by simp [members]) nofun mode _

end Flags

namespace Documentation

variable {α : Type} {fields : List (RecordField α)}

/-- Texts have members of these names, in this order. -/
theorem keys_members (texts : Documentation) : (texts.members.map Prod.fst).Sublist
    ["description", "markdown_description", "deprecation_message"] := by
  rw [members, List.map_append, List.map_append]
  exact ((Value.keys_optional _ _ _).append (Value.keys_optional _ _ _)).append
    (Value.keys_optional _ _ _)

/-- Texts fit. -/
theorem fits_members (texts : Documentation) : ∀ entry ∈ texts.members, entry.2.Fits := by
  have htext (text : Option String) (t : String) (_ : t ∈ text) : (Value.str t).Fits := trivial
  simp only [members, List.forall_mem_append]
  exact ⟨⟨Value.fits_optional _ (htext _), Value.fits_optional _ (htext _)⟩,
    Value.fits_optional _ (htext _)⟩

/-- The members of texts are assigned to the texts of a record without any. -/
theorem assigns_members (texts : Documentation) (room : Nat)
    (change : (Documentation → Documentation) → α → α) (record : Documentation → α)
    (hfind : ∀ field ∈ Documentation.fields change,
      Json.findField fields field.name = some field)
    (hchange : ∀ f texts, change f (record texts) = record (f texts)) {before after : α}
    (hbefore : record {} = before) (hafter : record texts = after) :
    Assigns fields room before texts.members after := by
  subst hbefore hafter
  have htext (text : Option String) (t : String) (_ : t ∈ text) :
      Json.readString room (Value.str t).node = .ok t := rfl
  have hdescription : Assigns fields room (record {})
      (Value.optional "description" .str texts.description)
      (record { description := texts.description }) :=
    Assigns.optional (hfind _ (.head _)) rfl (htext _) (hchange _ _) (hchange _ _)
  have hmarkdown : Assigns fields room (record { description := texts.description })
      (Value.optional "markdown_description" .str texts.markdown)
      (record { description := texts.description, markdown := texts.markdown }) :=
    Assigns.optional (hfind _ (.tail _ (.head _))) rfl (htext _) (hchange _ _) (hchange _ _)
  have hdeprecation :
      Assigns fields room (record { description := texts.description, markdown := texts.markdown })
        (Value.optional "deprecation_message" .str texts.deprecation) (record texts) :=
    Assigns.optional (hfind _ (.tail _ (.tail _ (.head _)))) rfl (htext _) (hchange _ _)
      (hchange _ _)
  exact (hdescription.append hmarkdown).append hdeprecation

end Documentation

/-- The members of a group are assigned to it, if its attributes are read back as a map. -/
theorem Group.assigns_members {α : Type} {child : Reader α} (group : Group α) (mode : Mode)
    {room : Nat} {attributes : List (String × Value)}
    (h : Json.readMap child room (Value.obj attributes).node = .ok group.attributes) :
    Assigns (fields mode child) room {} (group.members attributes) group :=
  .member rfl rfl (group.mode.read_node mode room) rfl <|
  .member rfl rfl h rfl <|
  .member rfl rfl (Json.readUInt64_node group.minItems) rfl <|
  .member rfl rfl (Json.readUInt64_node group.maxItems) rfl <| .nil _

namespace Attribute

theorem allToJson_eq_map (entries : List (String × Attribute)) :
    allToJson entries = entries.map fun entry => (entry.1, entry.2.toJson) := by
  induction entries with
  | nil => rfl
  | cons entry rest ih => rw [allToJson, ih, List.map_cons]

/-- A group is read back, if its attributes are and their names ascend. -/
theorem readGroup_node_of_forall {child : Reader Attribute} {group : Group Attribute} {room : Nat}
    (mode : Mode) (hascending : NameMap.Ascending group.attributes)
    (hchild : ∀ inner, inner < room → ∀ entry ∈ group.attributes,
      entry.2.toJson.depth ≤ inner → child inner entry.2.toJson.node = .ok entry.2)
    (hdepth : (groupToJson group).depth ≤ room) :
    Group.read mode child room (groupToJson group).node = .ok group := by
  obtain ⟨inner, rfl, hinner⟩ := Value.exists_room_of_depth_obj hdepth
  obtain ⟨room, rfl, hroom⟩ :=
    Value.exists_room_of_depth_obj (hinner ("attributes", _) (.tail _ (.head _)))
  have hmap : Json.readMap child (room + 1) (Value.obj (allToJson group.attributes)).node =
      .ok group.attributes := by
    rw [allToJson_eq_map] at hroom ⊢
    refine Json.readMap_node hascending fun entry hentry => ?_
    exact hchild room (by omega) entry hentry (hroom (entry.1, _) (List.mem_map_of_mem hentry))
  exact (group.assigns_members mode hmap).readRecord_node (by simp [Group.members]) nofun mode _

/-- The children of an attribute are the attributes of its group. -/
theorem children_eq_of_nested {a : Attribute} {group : Group Attribute}
    (h : group ∈ a.nested) : a.children = group.attributes := by
  rcases a with ⟨type, nested, flags, texts⟩
  obtain rfl : nested = some group := h
  exact children_of_nested_some type group flags texts

/-- The members of a written attribute. -/
def members (a : Attribute) : List (String × Value) :=
  Value.optional "type" AttributeType.toJson a.type?
    ++ Value.optional "nested" groupToJson a.nested ++ a.flags.members ++ a.documentation.members

/-- An attribute is written as the object of its members. -/
theorem toJson_eq (a : Attribute) : a.toJson = .obj a.members := by
  rcases a with ⟨_ | type, _ | ⟨mode, attributes, low, high⟩, flags, texts⟩ <;> rfl

/-- No name stands twice among the members of an attribute. -/
theorem nodup_members (a : Attribute) : (a.members.map Prod.fst).Nodup := by
  have hkeys : (a.members.map Prod.fst).Sublist (["type"] ++ ["nested"]
      ++ ["required", "optional", "computed", "sensitive"]
      ++ ["description", "markdown_description", "deprecation_message"]) := by
    rw [members, List.map_append, List.map_append, List.map_append]
    exact (((Value.keys_optional _ _ _).append (Value.keys_optional _ _ _)).append
      (List.Sublist.refl _)).append a.documentation.keys_members
  exact hkeys.nodup (by decide)

/-- The members of an attribute are assigned to it and to its flags, if its type and its group are
read back. -/
theorem merges_members {mode : Mode} {child : Reader Attribute} {room : Nat} (a : Attribute)
    (htype : ∀ type ∈ a.type?, AttributeType.read mode room type.toJson.node = .ok type)
    (hnested : ∀ group ∈ a.nested,
      Group.read mode child room (groupToJson group).node = .ok group) :
    Merges (fields mode child) Flags.fields room {} {} a.members { a with flags := {} }
      a.flags := by
  have htypeMember : Assigns (fields mode child) room {}
      (Value.optional "type" AttributeType.toJson a.type?) { type? := a.type? } :=
    Assigns.optional rfl rfl htype rfl rfl
  have hnestedMember : Assigns (fields mode child) room { type? := a.type? }
      (Value.optional "nested" groupToJson a.nested) { type? := a.type?, nested := a.nested } :=
    Assigns.optional rfl rfl hnested rfl rfl
  have htexts : Assigns (fields mode child) room { type? := a.type?, nested := a.nested }
      a.documentation.members { a with flags := {} } :=
    a.documentation.assigns_members room
      (fun change a => { a with documentation := change a.documentation })
      (fun texts => ⟨a.type?, a.nested, {}, texts⟩)
      (by
        simp only [Documentation.fields, List.forall_mem_cons]
        exact ⟨rfl, rfl, rfl, List.forall_mem_nil _⟩)
      (fun _ _ => rfl) rfl rfl
  have hflags : ∀ entry ∈ a.flags.members,
      Json.findField (fields mode child) entry.1 = none := by
    simp only [Flags.members, List.forall_mem_cons]
    exact ⟨rfl, rfl, rfl, rfl, List.forall_mem_nil _⟩
  exact (((Merges.ofOwn htypeMember _).append (Merges.ofOwn hnestedMember _)).append
    (Merges.ofTaken (a.flags.assigns_members room) _ hflags)).append (Merges.ofOwn htexts _)

/-- An attribute is read back, if its type and its group are. -/
theorem readWithin_node_of_forall {mode : Mode} {levels inner : Nat} {a : Attribute}
    (htype : ∀ type ∈ a.type?, AttributeType.read mode inner type.toJson.node = .ok type)
    (hnested : ∀ group ∈ a.nested,
      Group.read mode (readWithin mode levels) inner (groupToJson group).node = .ok group)
    (hdepth : ∀ entry ∈ a.members, entry.2.depth ≤ inner) :
    readWithin mode (levels + 1) (inner + 1) a.toJson.node = .ok a := by
  have hmerged := (a.merges_members htype hnested).readMerged_node a.nodup_members hdepth
    "Attribute"
  rw [toJson_eq, readWithin]
  simp only [hmerged]
  cases a
  rfl

/-- A written attribute is read back, if the maps in it ascend. -/
theorem readWithin_node {a : Attribute} (h : a.Ordered) (mode : Mode) {levels room : Nat}
    (hlevels : room < levels) (hdepth : a.toJson.depth ≤ room) :
    readWithin mode levels room a.toJson.node = .ok a := by
  induction a using childrenInduction generalizing levels room with
  | step a ih =>
    obtain ⟨levels, rfl⟩ : ∃ less, levels = less + 1 := ⟨levels - 1, by omega⟩
    have hmembers := hdepth
    rw [toJson_eq] at hmembers
    obtain ⟨inner, rfl, hinner⟩ := Value.exists_room_of_depth_obj hmembers
    refine readWithin_node_of_forall (fun type htype => ?_) (fun group hgroup => ?_) hinner
    · refine AttributeType.read_node (h.typeOrdered htype) mode (hinner ("type", type.toJson) ?_)
      simp [members, Option.mem_def.mp htype, Value.optional]
    · have hchildren := children_eq_of_nested hgroup
      refine readGroup_node_of_forall mode (hchildren ▸ h.ascending) ?_
        (hinner ("nested", groupToJson group) ?_)
      · intro room hroom entry hentry hdepth
        rw [← hchildren] at hentry
        exact ih entry hentry (h.child hentry) (by omega) hdepth
      · simp [members, Option.mem_def.mp hgroup, Value.optional]

/-- A written attribute is read back where there is room for its containers, if the maps in it
ascend. -/
theorem read_node {a : Attribute} (h : a.Ordered) (mode : Mode) {room : Nat}
    (hdepth : a.toJson.depth ≤ room) : read mode room a.toJson.node = .ok a :=
  readWithin_node h mode (Nat.lt_succ_self room) hdepth

/-- A group that stands alone is read back, if it ascends and the maps in it do. -/
theorem readGroup_node {group : Group Attribute} (hascending : NameMap.Ascending group.attributes)
    (hbelow : ∀ entry ∈ group.attributes, entry.2.Ordered) (mode : Mode) {room : Nat}
    (hdepth : (groupToJson group).depth ≤ room) :
    readGroup mode room (groupToJson group).node = .ok group :=
  readGroup_node_of_forall mode hascending
    (fun _ _ entry hentry hentryDepth => read_node (hbelow entry hentry) mode hentryDepth) hdepth

/-- A group fits, if its attributes do. -/
theorem fits_groupToJson {group : Group Attribute}
    (h : ∀ entry ∈ group.attributes, entry.2.toJson.Fits) : (groupToJson group).Fits := by
  have hattributes : (Value.obj (allToJson group.attributes)).Fits := by
    rw [allToJson_eq_map]
    exact Value.fits_obj (List.forall_mem_map.mpr h)
  exact ⟨trivial, hattributes, Value.fits_int_toNat _, Value.fits_int_toNat _, trivial⟩

/-- A written attribute fits. -/
theorem fits_toJson (a : Attribute) : a.toJson.Fits := by
  induction a using childrenInduction with
  | step a ih =>
    have htype := Value.fits_optional "type" (fun type _ => type.fits_toJson) (x := a.type?)
    have hnested : ∀ entry ∈ Value.optional "nested" groupToJson a.nested, entry.2.Fits := by
      refine Value.fits_optional "nested" fun group hgroup => fits_groupToJson ?_
      rwa [children_eq_of_nested hgroup] at ih
    rw [toJson_eq]
    refine Value.fits_obj ?_
    simp only [members, List.forall_mem_append]
    exact ⟨⟨⟨htype, hnested⟩, a.flags.fits_members⟩, a.documentation.fits_members⟩

/-- Named attributes fit. -/
theorem fits_allToJson (entries : List (String × Attribute)) :
    (Value.obj (allToJson entries)).Fits := by
  rw [allToJson_eq_map]
  exact Value.fits_obj (List.forall_mem_map.mpr fun entry _ => entry.2.fits_toJson)

end Attribute

end PluginSchema
