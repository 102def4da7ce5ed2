import PluginSchema.Notation.Schema
import PluginSchema.Proofs.Json.LenientRecord
import PluginSchema.Proofs.Json.Locality
import PluginSchema.Proofs.Json.Record
import PluginSchema.Proofs.Notation.Padded

/-!
# Values where they stand

A type, a group or an attribute is read directly from a document of its own, and from a buffer
below a schema. The buffer is the more lenient of the two, in one way only: where a type or a
nesting mode is the name of something without content, it takes an empty object for the content
that is not there. Otherwise it does not matter where a value stands.
-/

namespace PluginSchema

open Json (Document FieldsUnless Node Reader ReadsUnless Rooms Value VariantUnless VariantsUnless
  asMember fieldUnless_of findField readKeptFields readText)

namespace Json.ReadsUnless

variable {α : Type} {levels levels' : Nat} {role inner : Role} {strict lenient : Reader α}

/-- Maps need no more room than their values, and are padded just if one of the values is. -/
theorem values (h : ReadsUnless levels levels' inner.Padded strict lenient)
    (hbare : role.bareNames = []) (hitems : role.itemNames = [])
    (hpart : ∀ name, role.part name = some inner) :
    ReadsUnless levels levels' role.Padded (Json.readMap strict) (Json.readMap lenient) :=
  (h.readMap.mono (Nat.le_succ levels) (Nat.le_succ levels')).congr fun node =>
    (Role.padded_iff_values hbare hitems hpart node).symm

/-- What is read alike by itself is read alike as a part. -/
theorem asPart {name : String} (h : ReadsUnless levels levels' inner.Padded strict lenient)
    (hname : name ∉ role.bareNames) (hpart : role.part name = some inner) :
    ReadsUnless levels levels' (role.PaddedAt name) strict lenient :=
  h.congr fun node => (Role.paddedAt_of_part hname hpart node).symm

end Json.ReadsUnless

namespace AttributeType

variable {levels levels' : Nat}

/-- The variants of types, if the types that a type is made of are read alike. -/
theorem variants_unless {strict lenient : Reader AttributeType}
    (h : ReadsUnless levels levels' Role.type.Padded strict lenient) :
    VariantsUnless levels levels' Role.type.PaddedAt (variants strict) (variants lenient) := by
  have hbare {name : String} (type : AttributeType) (hname : name ∈ Role.type.bareNames)
      (hpart : Role.type.part name = none) :
      VariantUnless levels levels' (Role.type.PaddedAt name) (.bare type) (.bare type) :=
    .bare type (Role.paddedAt_of_bare hname hpart)
  have hcontent (name : String) {inner : Role} {first second : Reader AttributeType}
      (hread : ReadsUnless levels levels' inner.Padded first second)
      (hname : name ∉ Role.type.bareNames) (hpart : Role.type.part name = some inner) :
      VariantUnless levels levels' (Role.type.PaddedAt name) (.content first) (.content second) :=
    .content (hread.asPart hname hpart)
  have hfields : ReadsUnless levels levels' Role.types.Padded (Json.readMap strict)
      (Json.readMap lenient) := h.values rfl rfl fun _ => rfl
  exact .cons ⟨rfl, hbare string (by decide) rfl⟩ <|
    .cons ⟨rfl, hbare number (by decide) rfl⟩ <|
    .cons ⟨rfl, hbare int64 (by decide) rfl⟩ <|
    .cons ⟨rfl, hbare float64 (by decide) rfl⟩ <|
    .cons ⟨rfl, hbare bool (by decide) rfl⟩ <|
    .cons ⟨rfl, hcontent "list" (h.map list) (by decide) rfl⟩ <|
    .cons ⟨rfl, hcontent "set" (h.map set) (by decide) rfl⟩ <|
    .cons ⟨rfl, hcontent "map" (h.map map) (by decide) rfl⟩ <|
    .cons ⟨rfl, hcontent "object" (hfields.map object) (by decide) rfl⟩ <|
    .cons ⟨rfl, hbare dynamic (by decide) rfl⟩ .nil

/-- Types of so many levels. -/
theorem readWithin_unless (levels levels' : Nat) :
    ReadsUnless levels levels' Role.type.Padded (readWithin .direct levels)
      (readWithin .buffered levels') := by
  induction levels generalizing levels' with
  | zero => exact ⟨fun _ hrooms => absurd hrooms.lt (Nat.not_lt_zero _)⟩
  | succ levels ih =>
    cases levels' with
    | zero => exact ⟨fun _ hrooms => absurd hrooms.lt' (Nat.not_lt_zero _)⟩
    | succ levels' =>
      exact (variants_unless (ih levels')).readVariant.congr fun node =>
        (Role.padded_iff .type node).symm

/-- Types. -/
theorem read_unless (levels levels' : Nat) :
    ReadsUnless levels levels' Role.type.Padded (read .direct) (read .buffered) where
  alike hnode hrooms := (readWithin_unless _ _).alike hnode
    ⟨hrooms.le, hrooms.le', Nat.lt_succ_self _, Nat.lt_succ_self _⟩

end AttributeType

variable {levels levels' : Nat}

/-- Nesting modes. -/
theorem NestingMode.read_unless (levels levels' : Nat) :
    ReadsUnless levels levels' Role.nestingMode.Padded (read .direct) (read .buffered) := by
  have hbare {name : String} (nesting : NestingMode) (hname : name ∈ Role.nestingMode.bareNames) :
      VariantUnless levels levels' (Role.nestingMode.PaddedAt name) (.bare nesting)
        (.bare nesting) :=
    .bare nesting (Role.paddedAt_of_bare hname rfl)
  have hvariants : VariantsUnless levels levels' Role.nestingMode.PaddedAt variants variants :=
    .cons ⟨rfl, hbare single (by decide)⟩ <| .cons ⟨rfl, hbare list (by decide)⟩ <|
    .cons ⟨rfl, hbare set (by decide)⟩ <| .cons ⟨rfl, hbare map (by decide)⟩ .nil
  have hread := hvariants.readVariant.congr fun node => (Role.padded_iff .nestingMode node).symm
  exact hread.mono (Nat.le_succ levels) (Nat.le_succ levels')

/-- Texts of documentation, which are not padded. -/
theorem Documentation.fields_unless {α : Type}
    (change : (Documentation → Documentation) → α → α) {role : Role}
    (hbare : role.bareNames = []) (hdescription : role.part "description" = none)
    (hmarkdown : role.part "markdown_description" = none)
    (hdeprecation : role.part "deprecation_message" = none) :
    FieldsUnless levels levels' role.PaddedAt (fields change) (fields change) := by
  have htext {name : String} (hpart : role.part name = none) :
      ReadsUnless levels levels' (role.PaddedAt name) (Json.readOptional Json.readString)
        (Json.readOptional Json.readString) :=
    (ReadsUnless.readString (Role.not_paddedAt (by simp [hbare]) hpart)).optional
      (Role.not_paddedAt (by simp [hbare]) hpart _)
  exact .cons (fieldUnless_of (htext hdescription) _ _) <|
    .cons (fieldUnless_of (htext hmarkdown) _ _) <|
    .cons (fieldUnless_of (htext hdeprecation) _ _) .nil

/-- Flags, which are not padded. -/
theorem Flags.fields_unless : FieldsUnless levels levels' (fun _ _ => False) fields fields := by
  have hflag : ReadsUnless levels levels' (fun _ => False) Json.readBool Json.readBool :=
    .readBool fun _ => not_false
  exact .cons (fieldUnless_of hflag _ _) <| .cons (fieldUnless_of hflag _ _) <|
    .cons (fieldUnless_of hflag _ _) <| .cons (fieldUnless_of hflag _ _) .nil

/-- Groups, if attributes are read alike. -/
theorem Group.read_unless {strict lenient : Reader Attribute}
    (h : ReadsUnless levels levels' Role.attribute.Padded strict lenient) :
    ReadsUnless levels levels' Role.group.Padded (read .direct strict)
      (read .buffered lenient) := by
  have hmode : ReadsUnless levels levels' (Role.group.PaddedAt "nesting_mode")
      (NestingMode.read .direct) (NestingMode.read .buffered) :=
    (NestingMode.read_unless levels levels').asPart (by decide) rfl
  have hvalues : ReadsUnless levels levels' Role.attributes.Padded (Json.readMap strict)
      (Json.readMap lenient) := h.values rfl rfl fun _ => rfl
  have hattributes : ReadsUnless levels levels' (Role.group.PaddedAt "attributes")
      (Json.readMap strict) (Json.readMap lenient) := hvalues.asPart (by decide) rfl
  have hbound {name : String} (hpart : Role.group.part name = none) :
      ReadsUnless levels levels' (Role.group.PaddedAt name) Json.readUInt64 Json.readUInt64 :=
    .readUInt64 (Role.not_paddedAt (by simp [Role.bareNames]) hpart)
  have hfields : FieldsUnless levels levels' Role.group.PaddedAt (fields .direct strict)
      (fields .buffered lenient) :=
    .cons (fieldUnless_of hmode _ _) <| .cons (fieldUnless_of hattributes _ _) <|
    .cons (fieldUnless_of (hbound rfl) _ _) <| .cons (fieldUnless_of (hbound rfl) _ _) .nil
  have hnames : ∀ name ∈ Role.group.partNames,
      name ∈ (fields .direct strict).map Json.RecordField.name := by
    simp [Role.partNames, fields, Json.RecordField.of]
  have hread := hfields.readRecord (fun _ _ => Role.mem_of_paddedAt (by decide) hnames)
    (by simp [fields, Json.RecordField.of]) "NestedAttributes" {}
  exact (hread.mono (Nat.le_succ levels) (Nat.le_succ levels')).congr fun node =>
    (Role.padded_iff .group node).symm

namespace Attribute

/-- An attribute's own fields, if the attributes nested in it are read alike. -/
theorem fields_unless {strict lenient : Reader Attribute}
    (h : ReadsUnless levels levels' Role.attribute.Padded strict lenient) :
    FieldsUnless levels levels' Role.attribute.PaddedAt (fields .direct strict)
      (fields .buffered lenient) := by
  have htype : ReadsUnless levels levels' (Role.attribute.PaddedAt "type")
      (Json.readOptional (AttributeType.read .direct))
      (Json.readOptional (AttributeType.read .buffered)) :=
    ((AttributeType.read_unless levels levels').optional (Role.not_padded_null .type)).asPart
      (by decide) rfl
  have hnested : ReadsUnless levels levels' (Role.attribute.PaddedAt "nested")
      (Json.readOptional (Group.read .direct strict))
      (Json.readOptional (Group.read .buffered lenient)) :=
    ((Group.read_unless h).optional (Role.not_padded_null .group)).asPart (by decide) rfl
  exact .cons (fieldUnless_of htype _ _) <| .cons (fieldUnless_of hnested _ _) <|
    Documentation.fields_unless _ rfl rfl rfl rfl

/-- Attributes of so many levels. -/
theorem readWithin_unless (levels levels' : Nat) :
    ReadsUnless levels levels' Role.attribute.Padded (readWithin .direct levels)
      (readWithin .buffered levels') := by
  induction levels generalizing levels' with
  | zero => exact ⟨fun _ hrooms => absurd hrooms.lt (Nat.not_lt_zero _)⟩
  | succ levels ih =>
    cases levels' with
    | zero => exact ⟨fun _ hrooms => absurd hrooms.lt' (Nat.not_lt_zero _)⟩
    | succ levels' =>
      have hfields := fields_unless (ih levels')
      have hnames : ∀ name ∈ Role.attribute.partNames,
          name ∈ (fields .direct (readWithin .direct levels)).map Json.RecordField.name := by
        simp [Role.partNames, fields, Json.RecordField.of]
      have hdisjoint : ∀ name ∈ (fields .direct (readWithin .direct levels)).map
          Json.RecordField.name, name ∉ Flags.fields.map Json.RecordField.name := by
        simp [fields, Documentation.fields, Flags.fields, Json.RecordField.of]
      have hread := hfields.readMerged (fun _ _ => Role.mem_of_paddedAt (by decide) hnames)
        Flags.fields_unless hdisjoint "Attribute" {} {}
      have hpadded := hread.congr fun node => (Role.padded_iff .attribute node).symm
      exact hpadded.map fun x => { x.1 with flags := x.2 }

/-- Attributes. -/
theorem read_unless (levels levels' : Nat) :
    ReadsUnless levels levels' Role.attribute.Padded (read .direct) (read .buffered) where
  alike hnode hrooms := (readWithin_unless _ _).alike hnode
    ⟨hrooms.le, hrooms.le', Nat.lt_succ_self _, Nat.lt_succ_self _⟩

end Attribute

/-- The fields of a block. -/
theorem Block.fields_unless (levels levels' : Nat) :
    FieldsUnless levels levels' Role.block.PaddedAt (fields .direct) (fields .buffered) := by
  have hvalues : ReadsUnless levels levels' Role.attributes.Padded
      (Json.readMap (Attribute.read .direct)) (Json.readMap (Attribute.read .buffered)) :=
    (Attribute.read_unless levels levels').values rfl rfl fun _ => rfl
  have hattributes : ReadsUnless levels levels' (Role.block.PaddedAt "attributes")
      (Json.readMap (Attribute.read .direct)) (Json.readMap (Attribute.read .buffered)) :=
    hvalues.asPart (by decide) rfl
  exact .cons (fieldUnless_of hattributes _ _) <| Documentation.fields_unless _ rfl rfl rfl rfl

namespace Schema

variable {depth room : Nat} {entries : List (String × Node)}

/-- A schema is read from a whole object just if its own members and those of the block are. -/
theorem read_obj_iff (hentries : ∀ entry ∈ entries, entry.2.Within depth) (hroom : depth ≤ room)
    (block : Block) :
    (∃ schema, read (room + 1) (.obj (.ofList entries)) = .ok schema ∧ schema.block = block) ↔
      (∃ own, readKeptFields fields room ⟨{}, []⟩ entries = .ok own) ∧
        readKeptFields (Block.fields .buffered) room ⟨{}, []⟩ entries = .ok block := by
  have hdisjoint : ∀ name ∈ fields.map Json.RecordField.name,
      name ∉ (Block.fields .buffered).map Json.RecordField.name := by
    simp [fields, Block.fields, Documentation.fields, Json.RecordField.of]
  have hmerged := Json.readMerged_obj_eq_ok_iff hentries hroom hdisjoint "Schema" {} {}
  constructor
  · rintro ⟨schema, hschema, rfl⟩
    obtain ⟨⟨own, block⟩, hread, hvalue⟩ := Json.Reading.bind_eq_ok_iff.mp hschema
    obtain ⟨hown, hblock⟩ := (hmerged _).mp hread
    cases hvalue
    exact ⟨⟨own, hown⟩, hblock⟩
  · rintro ⟨⟨own, hown⟩, hblock⟩
    refine ⟨{ own with block }, ?_, rfl⟩
    exact Json.Reading.bind_eq_ok_iff.mpr ⟨(own, block), (hmerged _).mpr ⟨hown, hblock⟩, rfl⟩

/-- The members of a schema that are not its block's can be read, if at most one of them has the
name of the version and it is a number of 64 bits. -/
theorem exists_own {members : List (String × Node)}
    (hone : (members.filter fun member => member.1 == "version").length ≤ 1)
    (hversion : ∀ member ∈ members, member.1 = "version" →
      ∃ n : UInt64, member.2 = .num (.int n.toNat)) (room : Nat) :
    ∃ own, readKeptFields fields room ⟨{}, []⟩ members = .ok own := by
  have hkeep (member : String × Node) (hmember : (member.1 == "version") = false) :
      findField fields member.1 = none := by
    rw [Json.findField_eq_none_iff]
    simpa [fields, Json.RecordField.of] using hmember
  rw [← Json.readKeptFields_filter hkeep]
  match hfilter : members.filter fun member => member.1 == "version" with
  | [] =>
    rw [hfilter]
    exact ⟨{}, rfl⟩
  | [(name, node)] =>
    rw [hfilter]
    have hmember : (name, node) ∈ members.filter fun member => member.1 == "version" := by
      simp [hfilter]
    obtain ⟨hmember, hname⟩ := List.mem_filter.mp hmember
    obtain rfl : name = "version" := beq_iff_eq.mp hname
    obtain ⟨n, rfl⟩ := hversion _ hmember rfl
    have hread : Json.readUInt64 room (.num (.int n.toNat)) = .ok n := Json.readUInt64_node n
    exact ⟨{ version := n }, (Json.readKeptFields_singleton rfl room _ _).trans <|
      Json.RecordField.read_of hread⟩
  | _ :: _ :: _ =>
    rw [hfilter] at hone
    exact absurd hone (by simp)

end Schema

/-- A block is read directly from a whole object just if it is the block of a schema that is read
from the object, and the object is not padded. -/
theorem Block.read_obj_iff {depth room : Nat} {entries : List (String × Node)}
    (hentries : ∀ entry ∈ entries, entry.2.Within depth) (hroom : depth ≤ room)
    (hone : (entries.filter fun entry => entry.1 == "version").length ≤ 1)
    (hversion : ∀ entry ∈ entries, entry.1 = "version" →
      ∃ n : UInt64, entry.2 = .num (.int n.toNat)) (block : Block) :
    read .direct (room + 1) (.obj (.ofList entries)) = .ok block ↔
      (∃ schema, Schema.read (room + 1) (.obj (.ofList entries)) = .ok schema ∧
        schema.block = block) ∧ ¬Role.block.Padded (.obj (.ofList entries)) := by
  have hnames : ∀ name ∈ Role.block.partNames,
      name ∈ (fields .direct).map Json.RecordField.name := by
    simp [Role.partNames, fields, Json.RecordField.of]
  have hdefault : ∀ field ∈ fields .direct, field.presence ≠ .required := by
    simp [fields, Documentation.fields, Json.RecordField.of]
  have hkept := (fields_unless (room + 1) (room + 1)).readKeptFields
    (fun _ _ => Role.mem_of_paddedAt (by decide) hnames) hentries
    ⟨hroom, hroom, Nat.lt_succ_self room, Nat.lt_succ_self room⟩ ⟨{}, []⟩ block
  have hown := Schema.exists_own hone hversion room
  rw [Schema.read_obj_iff hentries hroom, and_iff_right hown, read,
    Json.readRecord_obj hdefault hentries, hkept, Role.padded_iff, Node.parts_obj]

/-- A document that gives a schema one attribute and nothing else. -/
def Json.Node.asOnlyAttribute (name : String) (node : Node) : Node :=
  .obj (.ofList [("attributes", .obj (.ofList [(name, node)]))])

/-- The one attribute of a schema is read from a buffer. -/
theorem Schema.read_asOnlyAttribute_iff {depth room : Nat} {node : Node}
    (hnode : node.Within depth) (hroom : depth ≤ room) (name : String) (a : Attribute) :
    (∃ schema, read (room + 2) (node.asOnlyAttribute name) = .ok schema ∧
        schema.block.attributes = [(name, a)]) ↔
      Attribute.read .buffered room node = .ok a := by
  have hentries : ∀ entry ∈ [("attributes", Node.obj (.ofList [(name, node)]))],
      entry.2.Within (depth + 1) :=
    List.forall_mem_singleton.mpr (.obj (List.forall_mem_singleton.mpr hnode))
  have hown : readKeptFields fields (room + 1) ⟨{}, []⟩
      [("attributes", Node.obj (.ofList [(name, node)]))] = .ok {} := rfl
  have hblock : readKeptFields (Block.fields .buffered) (room + 1) ⟨{}, []⟩
      [("attributes", Node.obj (.ofList [(name, node)]))] =
        (fun x => { attributes := [(name, x)] }) <$> Attribute.read .buffered room node := by
    rw [Json.readKeptFields_singleton rfl]
    change (do return { attributes := (← Json.readMap (Attribute.read .buffered) (room + 1) _) } :
      Json.Reading Block) = _
    rw [Json.readMap_singleton]
    cases Attribute.read .buffered room node <;> rfl
  have hread (block : Block) := (read_obj_iff hentries (Nat.succ_le_succ hroom) block)
  rw [hblock] at hread
  constructor
  · rintro ⟨schema, hschema, hattributes⟩
    obtain ⟨-, hvalue⟩ := (hread schema.block).mp ⟨schema, hschema, rfl⟩
    cases hattribute : Attribute.read .buffered room node with
    | error error =>
      rw [hattribute] at hvalue
      cases hvalue
    | ok x =>
      rw [hattribute] at hvalue
      rw [← Except.ok.inj hvalue] at hattributes
      obtain rfl : x = a := by simpa using hattributes
      rfl
  · intro ha
    rw [ha] at hread
    obtain ⟨schema, hschema, hvalue⟩ := (hread _).mpr ⟨⟨_, hown⟩, rfl⟩
    exact ⟨schema, hschema, by rw [hvalue]⟩

/-- A value that is a document of its own is read directly just if it is read where it stands in a
buffer, and no name without content is given an empty object in it. So a whole document, in which
at most 120 containers nest, is an attribute just if it is the one attribute of a schema when it is
put there, and not padded; and an object is a block just if it is a schema and not padded, where at
most one of its members is a version, and a number. The same holds of types and groups. -/
theorem readText_where_it_stands (text : String) (node : Node)
    (htext : Document.ofText text.toList = ⟨node, false⟩) (h : node.Within 120) :
    (∀ name a, readText (Attribute.read .direct) text = .ok a ↔
      (∃ schema, readText Schema.read (asMember "attributes" (asMember name text)) = .ok schema ∧
        schema.block.attributes = [(name, a)]) ∧ ¬Role.attribute.Padded node) ∧
    (∀ members block, node = .obj members →
      (members.toList.filter fun member => member.1 == "version").length ≤ 1 →
      (∀ member ∈ members.toList, member.1 = "version" →
        ∃ n : UInt64, member.2 = .num (.int n.toNat)) →
      (readText (Block.read .direct) text = .ok block ↔
        (∃ schema, readText Schema.read text = .ok schema ∧ schema.block = block) ∧
          ¬Role.block.Padded node)) ∧
    (∀ type, readText (AttributeType.read .direct) text = .ok type ↔
      readText (AttributeType.read .buffered) text = .ok type ∧ ¬Role.type.Padded node) ∧
    ∀ group, readText (Attribute.readGroup .direct) text = .ok group ↔
      readText (Attribute.readGroup .buffered) text = .ok group ∧ ¬Role.group.Padded node := by
  have hroom : 120 ≤ Json.maxDepth := by decide
  have hbelow : 120 ≤ 125 := by decide
  have hrooms : Rooms 128 128 120 Json.maxDepth Json.maxDepth :=
    ⟨hroom, hroom, by decide, by decide⟩
  have hattribute := Attribute.read_unless 128 128
  have hmember (name : String) : (Node.obj (.ofList [(name, node)])).Within 121 :=
    .obj (List.forall_mem_singleton.mpr h)
  have hschema (name : String) :
      Document.ofText (asMember "attributes" (asMember name text)).toList =
        ⟨node.asOnlyAttribute name, false⟩ :=
    Document.ofText_asMember (Document.ofText_asMember htext h.skip name) (hmember name).skip _
  simp only [readText, htext, hschema, Document.read_eq]
  refine ⟨fun name a => ?_, fun members block hmembers hone hversion => ?_, ?_, ?_⟩
  · have hread := hattribute.alike h ⟨hroom, hbelow, by decide, by decide⟩ a
    rw [hread, ← Schema.read_asOnlyAttribute_iff h hbelow name a]
    rfl
  · subst hmembers
    cases h with
    | @obj depth entries hentries =>
      rw [Json.Members.toList_ofList] at hone hversion
      exact Block.read_obj_iff hentries (by decide) hone hversion block
  · exact (AttributeType.read_unless 128 128).alike h hrooms
  · exact (Group.read_unless hattribute).alike h hrooms

/-- A list of the names of zones. As a block it has one attribute of its own. -/
def zones : Value :=
  .obj [
    ("version", .int 3),
    ("type", .obj [("list", .str "string")]),
    ("description", .str "Zones."),
    ("attributes", .obj [("id", .obj [("type", .str "string")])])]

/-- The zones are the attribute of a schema that they are by themselves, and the block. -/
theorem readText_where_it_stands_zones :
    (∃ schema,
      readText Schema.read (asMember "attributes" (asMember "zones" zones.text)) = .ok schema ∧
      schema.block.attributes =
        [("zones", { type? := some (.list .string), documentation.description := "Zones." })]) ∧
    ∃ schema, readText Schema.read zones.text = .ok schema ∧
      schema.block =
        { attributes := [("id", { type? := some .string })]
          documentation.description := "Zones." } := by
  have hfits : zones.Fits := by simp [zones, Value.Fits, Value.MembersFit]
  have htext : Document.ofText zones.text.toList = ⟨zones.node, false⟩ := Document.ofText_text hfits
  have hwithin : zones.node.Within 120 := Json.Node.within_iff.mpr rfl
  obtain ⟨hattribute, hblock, -⟩ := readText_where_it_stands zones.text zones.node htext hwithin
  refine ⟨((hattribute "zones" _).mp ?_).1, ((hblock _ _ rfl ?_ ?_).mp ?_).1⟩
  · rw [readText, htext]
    rfl
  · decide
  · change ∀ member ∈ [("version", Node.num (.int 3)), ("type", _), ("description", _),
      ("attributes", _)], _
    rw [List.forall_mem_cons]
    exact ⟨fun _ => ⟨3, rfl⟩, by simp⟩
  · rw [readText, htext]
    rfl

/-- An attribute in which the name of a type is given an empty object as content. -/
def padded : Value :=
  .obj [("type", .obj [("string", .obj [])]), ("optional", .bool true)]

/-- The padded attribute is the one attribute of a schema, and no attribute by itself. -/
theorem not_readText_where_it_stands :
    padded.text = "\x7b\"type\":\x7b\"string\":\x7b\x7d\x7d,\"optional\":true\x7d" ∧
    Document.ofText padded.text.toList = ⟨padded.node, false⟩ ∧ padded.node.Within 120 ∧
    ¬∀ name a, readText (Attribute.read .direct) padded.text = .ok a ↔
      ∃ schema, readText Schema.read (asMember "attributes" (asMember name padded.text)) =
        .ok schema ∧ schema.block.attributes = [(name, a)] := by
  have hfits : padded.Fits := by simp [padded, Value.Fits, Value.MembersFit]
  have htext : Document.ofText padded.text.toList = ⟨padded.node, false⟩ := Document.ofText_text hfits
  have hmember : Document.ofText (asMember "text" padded.text).toList =
      ⟨.obj (.ofList [("text", padded.node)]), false⟩ :=
    Document.ofText_asMember htext rfl "text"
  have hschema := Document.ofText_asMember hmember rfl "attributes"
  refine ⟨rfl, htext, Json.Node.within_iff.mpr rfl, fun h => ?_⟩
  have hpadded := (h "text" (.ofType .string .forOptional)).mpr
    ⟨{ block.attributes := [("text", .ofType .string .forOptional)] },
      by rw [readText, hschema]; rfl, rfl⟩
  rw [readText, htext] at hpadded
  cases hpadded

end PluginSchema
