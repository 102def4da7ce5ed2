import PluginSchema.Notation.Schema
import PluginSchema.Proofs.Json.Arrangement
import PluginSchema.Proofs.Json.Reading
import PluginSchema.Proofs.Notation.Varied

/-!
# What is read from documents that differ in nothing that counts

A reader is steady if it has the same value for two whole values that differ in nothing that
counts, as long as no key stands twice in the first. The readers of simple values are steady, since
they look into no containers. Maps and records are steady if the readers of their parts are, and a
record with unknown members needs no more, since each member is handed to one field of its name, be
it the record's own field or one of the record that it takes in. So all readers of schemas are
steady, up to the reader of a plugin's schemas.
-/

namespace PluginSchema

open Json (Mode Node Reader RecordField Value Variant)
open Json.Reading (toOption_bind toOption_eq_iff)

variable {α β : Type}

/-- A reader has the same value for whole values that stand for the same and differ in nothing
that counts, where it has room for both. -/
structure Steady (meaning : Meaning) (read : Reader α) : Prop where
  alike {room : Nat} {node other : Node} (hvaried : meaning.Varied node other)
    (hnode : node.Within room) (hother : other.Within room) (hdistinct : node.Distinct) :
    (read room node).toOption = (read room other).toOption

/-- Items of two arrays that steady readers read alike. -/
def ItemsAlike (meaning : Meaning) (room : Nat) (items : List (Node × Node)) : Prop :=
  ∀ {index : Nat} {item : Node × Node}, items[index]? = some item →
    ∀ {α : Type} {read : Reader α}, Steady (meaning.item index) read →
      (read room item.1).toOption = (read room item.2).toOption

/-- Members of two objects that steady readers read alike, of which the second are arranged anew
among more members with unknown names. -/
structure MembersAlike (meaning : Meaning) (room : Nat) (members : List (String × Node × Node))
    (more others : List (String × Node)) : Prop where
  keys : (members.map Prod.fst).Nodup
  read {α : Type} {read : Reader α} {member : String × Node × Node} (hmember : member ∈ members)
    (h : Steady (meaning.part member.1) read) :
    (read room member.2.1).toOption = (read room member.2.2).toOption
  within : ∀ entry ∈ members.map (fun member => (member.1, member.2.1)), entry.2.Within room
  others_within : ∀ entry ∈ others, entry.2.Within room
  unknown : ∀ entry ∈ more, meaning.Unknown entry.1
  perm : (members.map (fun member => (member.1, member.2.2)) ++ more).Perm others

/-- What does not stand for a record has no more members. -/
theorem MembersAlike.perm_of_none {meaning : Meaning} {room : Nat}
    {members : List (String × Node × Node)} {more others : List (String × Node)}
    (h : MembersAlike meaning room members more others) (hnames : meaning.fieldNames = none) :
    (members.map fun member => (member.1, member.2.2)).Perm others := by
  have hmore : more = [] := by
    refine List.eq_nil_iff_forall_not_mem.mpr fun entry hentry => ?_
    obtain ⟨names, hnames', -⟩ := h.unknown entry hentry
    rw [hnames] at hnames'
    cases hnames'
  have hperm := h.perm
  rwa [hmore, List.append_nil] at hperm

namespace Steady

variable {meaning inner : Meaning} {read : Reader α}

/-- A reader is steady if it reads arrays alike whose items are read alike, and objects whose
members are. -/
theorem of_containers
    (harr : ∀ room items, ItemsAlike meaning room items →
      (read (room + 1) (.arr (.ofList (items.map Prod.fst)))).toOption =
        (read (room + 1) (.arr (.ofList (items.map Prod.snd)))).toOption)
    (hobj : ∀ room members more others, MembersAlike meaning room members more others →
      (read (room + 1)
          (.obj (.ofList (members.map fun member => (member.1, member.2.1))))).toOption =
        (read (room + 1) (.obj (.ofList others))).toOption) :
    Steady meaning read := by
  refine ⟨fun {room node other} hvaried hnode hother hdistinct => ?_⟩
  cases hvaried with
  | same => rfl
  | arr hitems =>
    obtain ⟨room, rfl, hfirst⟩ := hnode.exists_room_of_arr
    obtain ⟨_, hroom, hsecond⟩ := hother.exists_room_of_arr
    cases hroom
    refine harr room _ fun {index item} hitem _ _ h => ?_
    have hmem := List.mem_of_getElem? hitem
    exact h.alike (hitems index item hitem) (hfirst _ (List.mem_map_of_mem hmem))
      (hsecond _ (List.mem_map_of_mem hmem)) (hdistinct.of_arr _ (List.mem_map_of_mem hmem))
  | @obj _ members more others hmembers hmore hothers =>
    obtain ⟨room, rfl, hfirst⟩ := hnode.exists_room_of_obj
    obtain ⟨_, hroom, hsecond⟩ := hother.exists_room_of_obj
    cases hroom
    have hkeys := hdistinct.keys_obj
    rw [List.map_map] at hkeys
    refine hobj room members more others ⟨hkeys, fun {_ _ member} hmember h => ?_, hfirst, hsecond,
      hmore, hothers⟩
    have hmem : (member.1, member.2.1) ∈ members.map fun member => (member.1, member.2.1) :=
      List.mem_map_of_mem hmember
    have hmem' : (member.1, member.2.2) ∈ members.map fun member => (member.1, member.2.2) :=
      List.mem_map_of_mem hmember
    exact h.alike (hmembers member hmember) (hfirst _ hmem)
      (hsecond _ (hothers.subset (List.mem_append_left more hmem'))) (hdistinct.of_obj _ hmem)

/-- A reader that has no value for containers is steady. -/
theorem of_simple (harr : ∀ room items, (read room (.arr items)).toOption = none)
    (hobj : ∀ room members, (read room (.obj members)).toOption = none) : Steady meaning read :=
  of_containers (fun _ _ _ => by rw [harr, harr]) fun _ _ _ _ _ => by rw [hobj, hobj]

/-- Truth values. -/
theorem readBool : Steady meaning Json.readBool := of_simple (fun _ _ => rfl) fun _ _ => rfl

/-- Texts. -/
theorem readString : Steady meaning Json.readString := of_simple (fun _ _ => rfl) fun _ _ => rfl

/-- Numbers of 64 bits. -/
theorem readUInt64 : Steady meaning Json.readUInt64 := of_simple (fun _ _ => rfl) fun _ _ => rfl

/-- A value that is changed after it is read makes no difference. -/
theorem map (h : Steady meaning read) (change : α → β) :
    Steady meaning fun room node => return change (← read room node) := by
  refine ⟨fun hvaried hnode hother hdistinct => ?_⟩
  simp only [toOption_bind, h.alike hvaried hnode hother hdistinct]

/-- Values that may be absent. -/
theorem optional (h : Steady meaning read) : Steady meaning (Json.readOptional read) := by
  refine ⟨fun hvaried hnode hother hdistinct => ?_⟩
  have hread := (h.map some).alike hvaried hnode hother hdistinct
  cases hvaried with
  | same => rfl
  | arr => exact hread
  | obj => exact hread

/-- Maps. -/
theorem readMap (h : Steady inner read) (hnames : meaning.fieldNames = none)
    (hpart : ∀ name, meaning.part name = inner) : Steady meaning (Json.readMap read) := by
  refine of_containers (fun _ _ _ => rfl) fun room members more others halike => ?_
  exact Json.toOption_readMap_rearranged halike.keys
    (fun member hmember => halike.read hmember ((hpart member.1).symm ▸ h))
    (halike.perm_of_none hnames)

/-- Nothing as the content of a name. -/
theorem readNothing (mode : Mode) : Steady .plain fun _ => Json.readNothing mode := by
  refine of_containers (fun _ _ _ => rfl) fun room members more others halike => ?_
  have hperm := halike.perm_of_none rfl
  match members, others with
  | [], others =>
    rw [List.nil_perm.mp hperm]
    rfl
  | _ :: _, [] => cases hperm.eq_nil
  | _ :: _, _ :: _ => rfl

/-- The content of a variant, if it has any, is read by a steady reader. -/
inductive OfVariant : Variant α → Prop
  | bare (value : α) : OfVariant (.bare value)
  | content {read : Reader α} (h : Steady .plain read) : OfVariant (.content read)

/-- The value of a variant with a name. -/
theorem readTagged {variants : List (String × Variant α)}
    (h : ∀ entry ∈ variants, OfVariant entry.2) (mode : Mode) {room : Nat}
    {members : List (String × Node × Node)} {more others : List (String × Node)}
    (halike : MembersAlike .plain room members more others) {member : String × Node × Node}
    (hmember : member ∈ members) :
    (Json.readTagged mode variants room (.ofList [(member.1, member.2.1)])).toOption =
      (Json.readTagged mode variants room (.ofList [(member.1, member.2.2)])).toOption := by
  simp only [Json.Members.ofList, Json.readTagged, Json.findVariant, toOption_bind]
  cases hlookup : variants.lookup member.1 with
  | none => rfl
  | some variant =>
    obtain ⟨before, after, hsplit, -⟩ := List.lookup_eq_some_iff.mp hlookup
    have hvariant : OfVariant variant := h (member.1, variant) (by simp [hsplit])
    cases hvariant with
    | bare value =>
      change (Json.readNothing mode member.2.1 >>= _).toOption =
        (Json.readNothing mode member.2.2 >>= _).toOption
      simp only [toOption_bind, halike.read hmember (readNothing mode)]
    | @content read hread =>
      change (read room member.2.1 >>= _).toOption = (read room member.2.2 >>= _).toOption
      simp only [toOption_bind, halike.read hmember hread]

/-- No value is read from an object with a second member. -/
theorem toOption_readVariant_two (mode : Mode) (variants : List (String × Variant α)) (room : Nat)
    (first second : String × Node) (rest : List (String × Node)) :
    (Json.readVariant mode variants room (.obj (.ofList (first :: second :: rest)))).toOption =
      none := by
  match room, mode with
  | 0, _ => rfl
  | _ + 1, .buffered => rfl
  | room + 1, .direct =>
    change (Json.readTagged .direct variants room
      (.ofList (first :: second :: rest))).toOption = none
    cases hread : Json.readTagged .direct variants room (.ofList (first :: second :: rest)) with
    | error error => rfl
    | ok value =>
      exact absurd hread (Json.readTagged_ne_ok .direct variants room first second rest value)

/-- Variants. -/
theorem readVariant {variants : List (String × Variant α)}
    (h : ∀ entry ∈ variants, OfVariant entry.2) (mode : Mode) :
    Steady .plain (Json.readVariant mode variants) := by
  have harr (room : Nat) (items : Json.Items) :
      (Json.readVariant mode variants room (.arr items)).toOption = none := by cases mode <;> rfl
  refine of_containers (fun _ _ _ => by rw [harr, harr]) fun room members more others halike => ?_
  have hperm := halike.perm_of_none rfl
  match members, others with
  | [], others =>
    rw [List.nil_perm.mp hperm]
    rfl
  | [member], others =>
    obtain rfl := List.singleton_perm.mp hperm
    have htagged := readTagged h mode halike (.head _)
    cases mode <;> exact htagged
  | _ :: _ :: _, [] => cases hperm.length_eq
  | _ :: _ :: _, [_] => cases hperm.length_eq
  | _ :: _ :: _, _ :: _ :: _ =>
    exact (toOption_readVariant_two ..).trans (toOption_readVariant_two ..).symm

end Steady

section Fields

variable {meaning : Meaning} {fields : List (RecordField α)}

/-- A field is read by a steady reader. -/
def SteadyField (meaning : Meaning) (field : RecordField α) : Prop :=
  ∀ record, Steady (meaning.part field.name) (field.read · · record)

/-- A field is read so if its value is. -/
theorem SteadyField.of {inner : Meaning} {name : String} {read : Reader β} {set : α → β → α}
    (hpart : meaning.part name = inner) (h : Steady inner read) :
    SteadyField meaning (.of name read set) := by
  subst hpart
  exact fun record => h.map (set record)

/-- Fields of a record are read by steady readers, under names that it knows, and independently. -/
structure SteadyFields (meaning : Meaning) (fields : List (RecordField α)) : Prop where
  steady : ∀ field ∈ fields, SteadyField meaning field
  known : ∀ names ∈ meaning.fieldNames, ∀ field ∈ fields, field.name ∈ names
  independent : fields.Pairwise RecordField.Independent

/-- The fields of a record are read alike from members that are. -/
theorem SteadyFields.readKeptFields (h : SteadyFields meaning fields) {room : Nat}
    {members : List (String × Node × Node)} {more others : List (String × Node)}
    (halike : MembersAlike meaning room members more others) (empty : α) :
    (Json.readKeptFields fields room ⟨empty, []⟩
        (members.map fun member => (member.1, member.2.1))).toOption =
      (Json.readKeptFields fields room ⟨empty, []⟩ others).toOption := by
  refine Json.toOption_readKeptFields_rearranged h.independent halike.keys ?_ ?_ halike.perm empty
  · intro member hmember field hfind record
    have hname : field.name = member.1 := eq_of_beq (List.find?_some hfind :)
    exact halike.read hmember (hname ▸ h.steady field (List.mem_of_find?_eq_some hfind) record)
  · intro entry hentry
    obtain ⟨names, hnames, hunknown⟩ := halike.unknown entry hentry
    rw [Json.findField_eq_none_iff]
    intro hmem
    obtain ⟨field, hfield, hname⟩ := List.mem_map.mp hmem
    exact hunknown (hname ▸ h.known names hnames field hfield)

/-- Records without required fields, which may be arrays of their fields. -/
theorem SteadyFields.readRecord (h : SteadyFields meaning fields)
    (hitem : ∀ (index : Nat) (field : RecordField α), fields[index]? = some field →
      meaning.item index = meaning.part field.name)
    (hdefault : ∀ field ∈ fields, field.presence ≠ .required) (mode : Mode) (title : String)
    (empty : α) : Steady meaning (Json.readRecord mode title fields empty) := by
  refine Steady.of_containers (fun room items halike => ?_)
    fun room members more others halike => ?_
  · refine Json.toOption_readFieldItems_congr (fun index field item hfield hitems record => ?_) 0
      empty
    have hsteady := h.steady field (List.mem_of_getElem? hfield) record
    exact halike hitems (hitem index field hfield ▸ hsteady)
  · rw [Json.readRecord_obj hdefault halike.within,
      Json.readRecord_obj hdefault halike.others_within]
    exact h.readKeptFields halike empty

/-- Records that take in another one. -/
theorem SteadyFields.readMerged (h : SteadyFields meaning fields) {taken : List (RecordField β)}
    (htaken : SteadyFields meaning taken)
    (hdisjoint : ∀ name ∈ fields.map RecordField.name, name ∉ taken.map RecordField.name)
    (title : String) (empty : α) (emptyTaken : β) :
    Steady meaning (Json.readMerged title fields empty taken emptyTaken) := by
  refine Steady.of_containers (fun _ _ _ => rfl) fun room members more others halike => ?_
  rw [toOption_eq_iff]
  intro value
  rw [Json.readMerged_obj_eq_ok_iff halike.within (Nat.le_refl room) hdisjoint,
    Json.readMerged_obj_eq_ok_iff halike.others_within (Nat.le_refl room) hdisjoint,
    toOption_eq_iff.mp (h.readKeptFields halike empty),
    toOption_eq_iff.mp (htaken.readKeptFields halike emptyTaken)]

end Fields

variable {meaning : Meaning}

/-- Types. -/
theorem AttributeType.readWithin_steady (mode : Mode) (levels : Nat) :
    Steady .plain (readWithin mode levels) := by
  induction levels with
  | zero => exact .of_simple (fun _ _ => rfl) fun _ _ => rfl
  | succ levels ih =>
    refine .readVariant ?_ mode
    have hfields : Steady .plain (Json.readMap (readWithin mode levels)) :=
      ih.readMap rfl fun _ => rfl
    simp only [variants, List.forall_mem_cons]
    exact ⟨.bare _, .bare _, .bare _, .bare _, .bare _, .content (ih.map list),
      .content (ih.map set), .content (ih.map map), .content (hfields.map object), .bare _, nofun⟩

/-- Types, with as many levels as containers. -/
theorem AttributeType.read_steady (mode : Mode) : Steady .plain (read mode) where
  alike {room _ _} := (readWithin_steady mode (room + 1)).alike

/-- Nesting modes. -/
theorem NestingMode.read_steady (mode : Mode) : Steady .plain (read mode) := by
  refine .readVariant ?_ mode
  simp only [variants, List.map_cons, List.map_nil, List.forall_mem_cons]
  exact ⟨.bare _, .bare _, .bare _, .bare _, nofun⟩

/-- The fields of flags. -/
theorem Flags.steadyFields : SteadyFields .attribute fields where
  steady := by
    simp only [fields, List.forall_mem_cons]
    exact ⟨.of rfl .readBool, .of rfl .readBool, .of rfl .readBool, .of rfl .readBool, nofun⟩
  known := by simp [Meaning.fieldNames, fields, RecordField.of]
  independent := by simp [fields, RecordField.Independent.of_set]

/-- The fields of a group. -/
theorem Group.steadyFields {child : Reader α} (h : Steady .attribute child) (mode : Mode) :
    SteadyFields .group (fields mode child) where
  steady := by
    have hattributes : Steady .attributes (Json.readMap child) := h.readMap rfl fun _ => rfl
    simp only [fields, List.forall_mem_cons]
    exact ⟨.of rfl (NestingMode.read_steady mode), .of rfl hattributes, .of rfl .readUInt64,
      .of rfl .readUInt64, nofun⟩
  known := by simp [Meaning.fieldNames, fields, RecordField.of]
  independent := by simp [fields, RecordField.Independent.of_set]

/-- Groups. -/
theorem Group.read_steady {child : Reader α} (h : Steady .attribute child) (mode : Mode) :
    Steady .group (read mode child) := by
  refine (steadyFields h mode).readRecord ?_ (by simp [fields, RecordField.of]) mode _ _
  rintro (_ | _ | _ | _ | index) field hfield <;> cases hfield <;> rfl

/-- An attribute's own fields. -/
theorem Attribute.steadyFields {child : Reader Attribute} (h : Steady .attribute child)
    (mode : Mode) : SteadyFields .attribute (fields mode child) where
  steady := by
    have htext : Steady .plain (Json.readOptional Json.readString) := .optional .readString
    simp only [fields, Documentation.fields, List.cons_append, List.nil_append,
      List.forall_mem_cons]
    exact ⟨.of rfl (AttributeType.read_steady mode).optional,
      .of rfl (Group.read_steady h mode).optional, .of rfl htext, .of rfl htext, .of rfl htext,
      nofun⟩
  known := by simp [Meaning.fieldNames, fields, Documentation.fields, RecordField.of]
  independent := by simp [fields, Documentation.fields, RecordField.Independent.of_set]

/-- Attributes. -/
theorem Attribute.readWithin_steady (mode : Mode) (levels : Nat) :
    Steady .attribute (readWithin mode levels) := by
  induction levels with
  | zero => exact .of_simple (fun _ _ => rfl) fun _ _ => rfl
  | succ levels ih =>
    have hdisjoint : ∀ name ∈ (fields mode (readWithin mode levels)).map RecordField.name,
        name ∉ Flags.fields.map RecordField.name := by
      simp [fields, Documentation.fields, Flags.fields, RecordField.of]
    exact ((steadyFields ih mode).readMerged Flags.steadyFields hdisjoint "Attribute" {} {}).map
      fun merged => { merged.1 with flags := merged.2 }

/-- Attributes, with as many levels as containers. -/
theorem Attribute.read_steady (mode : Mode) : Steady .attribute (read mode) where
  alike {room _ _} := (readWithin_steady mode (room + 1)).alike

/-- The fields of a block. -/
theorem Block.steadyFields (mode : Mode) : SteadyFields .schema (fields mode) where
  steady := by
    have hattributes : Steady .attributes (Json.readMap (Attribute.read mode)) :=
      (Attribute.read_steady mode).readMap rfl fun _ => rfl
    have htext : Steady .plain (Json.readOptional Json.readString) := .optional .readString
    simp only [fields, Documentation.fields, List.forall_mem_cons]
    exact ⟨.of rfl hattributes, .of rfl htext, .of rfl htext, .of rfl htext, nofun⟩
  known := by simp [Meaning.fieldNames, fields, Documentation.fields, RecordField.of]
  independent := by simp [fields, Documentation.fields, RecordField.Independent.of_set]

/-- A schema's own field. -/
theorem Schema.steadyFields : SteadyFields .schema fields where
  steady := by
    simp only [fields, List.forall_mem_cons]
    exact ⟨.of rfl .readUInt64, nofun⟩
  known := by simp [Meaning.fieldNames, fields, RecordField.of]
  independent := List.pairwise_singleton _ _

/-- Schemas. -/
theorem Schema.read_steady : Steady .schema read := by
  have hdisjoint : ∀ name ∈ fields.map RecordField.name,
      name ∉ (Block.fields .buffered).map RecordField.name := by
    simp [fields, Block.fields, Documentation.fields, RecordField.of]
  exact (steadyFields.readMerged (Block.steadyFields .buffered) hdisjoint "Schema" {} {}).map
    fun merged => { merged.1 with block := merged.2 }

/-- The fields of a plugin's schemas. -/
theorem ProviderSchema.steadyFields : SteadyFields .provider fields where
  steady := by
    have hschemas : Steady .schemas (Json.readMap Schema.read) :=
      Schema.read_steady.readMap rfl fun _ => rfl
    simp only [fields, List.forall_mem_cons]
    exact ⟨.of rfl Schema.read_steady, .of rfl hschemas, .of rfl hschemas, nofun⟩
  known := by simp [Meaning.fieldNames, fields, RecordField.of]
  independent := by simp [fields, RecordField.Independent.of_set]

/-- The schemas of a plugin. -/
theorem ProviderSchema.read_steady : Steady .provider read := by
  refine steadyFields.readRecord ?_ (by simp [fields, RecordField.of]) .direct _ _
  rintro (_ | _ | _ | index) field hfield <;> cases hfield <;> rfl

/-- Of two documents that differ in nothing that counts, both are read as the same schemas of a
plugin or neither is read: members may stand in another order wherever no key stands twice, and
wherever an object stands for a record it may have more members with names that the record does
not know. -/
theorem ProviderSchema.readText_varied {text other : String} {node changed : Node}
    (htext : Json.Document.ofText text.toList = ⟨node, false⟩)
    (hother : Json.Document.ofText other.toList = ⟨changed, false⟩)
    (hvaried : Meaning.provider.Varied node changed) (hdistinct : node.Distinct)
    (hnode : node.Within Json.maxDepth) (hchanged : changed.Within Json.maxDepth)
    (schemas : ProviderSchema) :
    Json.readText read text = .ok schemas ↔ Json.readText read other = .ok schemas := by
  have halike := read_steady.alike hvaried hnode hchanged hdistinct
  rw [Json.readText, Json.readText, htext, hother, Json.Document.read_eq, Json.Document.read_eq]
  exact toOption_eq_iff.mp halike schemas

/-- The schemas of a plugin with a resource. -/
def ProviderSchema.sole : ProviderSchema where
  provider := { version := 1, block.documentation.description := "b" }
  resources := [("a", {})]

/-- A document for them. -/
def ProviderSchema.arranged : Value := .obj [
  ("resources", .obj [("a", .obj [])]),
  ("provider", .obj [("version", .int 1), ("description", .str "b")])]

/-- The same in another order, among members that are fields elsewhere. -/
def ProviderSchema.rearranged : Value := .obj [
  ("provider", .obj [("description", .str "b"), ("resources", .int 0), ("version", .int 1)]),
  ("attributes", .arr []),
  ("resources", .obj [("a", .obj [])])]

/-- The second document differs from the first in nothing that counts. -/
theorem ProviderSchema.varied_rearranged :
    Meaning.provider.Varied arranged.node rearranged.node := by
  have hprovider : Meaning.schema.Varied
      (Value.obj [("version", .int 1), ("description", .str "b")]).node
      (Value.obj [("description", .str "b"), ("resources", .int 0), ("version", .int 1)]).node :=
    @Meaning.Varied.obj _ [
      ("version", (Value.int 1).node, (Value.int 1).node),
      ("description", (Value.str "b").node, (Value.str "b").node)]
      [("resources", (Value.int 0).node)] _
      (List.forall_mem_cons.mpr ⟨.same _ _, List.forall_mem_singleton.mpr (.same _ _)⟩)
      (List.forall_mem_singleton.mpr ⟨_, rfl, by decide⟩)
      (List.perm_append_singleton _ _).symm
  exact @Meaning.Varied.obj .provider [
    ("resources", (Value.obj [("a", .obj [])]).node, (Value.obj [("a", .obj [])]).node),
    ("provider", (Value.obj [("version", .int 1), ("description", .str "b")]).node,
      (Value.obj [("description", .str "b"), ("resources", .int 0), ("version", .int 1)]).node)]
    [("attributes", (Value.arr []).node)] _
    (List.forall_mem_cons.mpr ⟨.same _ _, List.forall_mem_singleton.mpr hprovider⟩)
    (List.forall_mem_singleton.mpr ⟨_, rfl, by decide⟩)
    (List.perm_append_singleton _ _).symm

/-- Both documents are read as the schemas. -/
theorem ProviderSchema.readText_rearranged :
    Json.readText read arranged.text = .ok sole ∧
      Json.readText read rearranged.text = .ok sole := by
  have hdistinct : arranged.node.Distinct := by
    have hsimple (value : Value) (h : value.node.parts [] = [] ∧ value.node.items = []) :
        value.node.Distinct := ⟨by simp [h], by simp [h], by simp [h]⟩
    have hresources : (Value.obj [("a", .obj [])]).node.Distinct :=
      ⟨by decide, List.forall_mem_singleton.mpr (hsimple (.obj []) ⟨rfl, rfl⟩),
        List.forall_mem_nil _⟩
    have hprovider :
        (Value.obj [("version", .int 1), ("description", .str "b")]).node.Distinct :=
      ⟨by decide, List.forall_mem_cons.mpr ⟨hsimple (.int 1) ⟨rfl, rfl⟩,
        List.forall_mem_singleton.mpr (hsimple (.str "b") ⟨rfl, rfl⟩)⟩, List.forall_mem_nil _⟩
    exact ⟨by decide, List.forall_mem_cons.mpr ⟨hresources,
      List.forall_mem_singleton.mpr hprovider⟩, List.forall_mem_nil _⟩
  have hfits : arranged.Fits := by
    simp [arranged, Value.Fits, Value.MembersFit]
  have hfits' : rearranged.Fits := by
    simp [rearranged, Value.Fits, Value.MembersFit, Value.ItemsFit]
  have hwithin (value : Value) (hdepth : value.depth ≤ Json.maxDepth) :
      value.node.Within Json.maxDepth :=
    Json.Node.within_iff.mpr (Json.Node.lookThrough_node value Json.maxDepth hdepth)
  have hread : Json.readText read arranged.text = .ok sole :=
    (Json.readText_text read hfits).trans rfl
  have hiff := readText_varied (Json.Document.ofText_text hfits) (Json.Document.ofText_text hfits')
    varied_rearranged hdistinct (hwithin arranged (by decide)) (hwithin rearranged (by decide)) sole
  exact ⟨hread, hiff.mp hread⟩

end PluginSchema
