import PluginSchema.Proofs.Conversion.Mirror
import PluginSchema.Proofs.Conversion.SchemaResult
import PluginSchema.Proofs.Notation.Unambiguous
import PluginSchema.Proofs.Protobuf.Layout

/-!
# What is sent determines the schema

A schema is sent as the bytes of its message. A message tells all parts of a record apart but one:
a description without a format is sent as plain text is. So two schemas are sent as the same bytes
exactly if they are one once each format is made explicit. Conversion leaves a format out just
where there is no text either, so of its results no two are sent alike.
-/

namespace PluginSchema

namespace Wire

/-- A description with its format, which is plain where none is given. -/
def Description.explicit (description : Description) : Description where
  text := description.text
  kind := some (description.kind.getD .plain)

namespace Attribute

mutual

/-- An attribute with an explicit format in it and in all attributes nested in it. -/
def explicit : Attribute → Attribute
  | ⟨name, type, none, description, flags, deprecated⟩ =>
    ⟨name, type, none, description.explicit, flags, deprecated⟩
  | ⟨name, type, some ⟨attributes, nesting, low, high⟩, description, flags, deprecated⟩ =>
    ⟨name, type, some ⟨allExplicit attributes, nesting, low, high⟩, description.explicit, flags,
      deprecated⟩

/-- Attributes with explicit formats. -/
def allExplicit : List Attribute → List Attribute
  | [] => []
  | a :: rest => a.explicit :: allExplicit rest

end

end Attribute

/-- An object of attributes with explicit formats. -/
def Object.explicit (object : Object Attribute) : Object Attribute where
  attributes := Attribute.allExplicit object.attributes
  nesting := object.nesting
  minItems := object.minItems
  maxItems := object.maxItems

/-- A block with explicit formats. -/
def Block.explicit (block : Block) : Block where
  attributes := Attribute.allExplicit block.attributes
  description := block.description.explicit
  deprecated := block.deprecated

/-- A schema with explicit formats. -/
def Schema.explicit (schema : Schema) : Schema where
  version := schema.version
  block := schema.block.explicit

/-- The numbers of formats are one exactly if the formats are, where no format is plain text. -/
theorem StringKind.number_inj {kind other : Option StringKind} :
    number kind = number other ↔ kind.getD plain = other.getD plain := by
  rcases kind with _ | _ | _ <;> rcases other with _ | _ | _ <;> decide

/-- The numbers of nesting modes are one exactly if the modes are. -/
theorem nestingNumber_inj {mode other : NestingMode} :
    nestingNumber mode = nestingNumber other ↔ mode = other := by
  cases mode <;> cases other <;> decide

/-- Two descriptions are sent alike exactly if they are one with explicit formats. -/
theorem Description.explicit_inj {description other : Description} :
    description.explicit = other.explicit ↔
      description.text = other.text ∧
        StringKind.number description.kind = StringKind.number other.kind := by
  rw [StringKind.number_inj, explicit, explicit, Description.mk.injEq, Option.some.injEq]

/-- Two types that may be absent travel as the same bytes exactly if they are one. -/
theorem ValueType.getD_encoded_inj {type other : Option ValueType} :
    (type.map encoded).getD [] = (other.map encoded).getD [] ↔ type = other := by
  have inj {type other : ValueType} (h : type.encoded = other.encoded) : type = other :=
    eq_of_prefix_encoded (h ▸ List.prefix_rfl)
  refine ⟨fun h => ?_, fun h => h ▸ rfl⟩
  cases type with
  | none =>
    cases other with
    | none => rfl
    | some other => exact absurd h.symm other.encoded_ne_nil
  | some type =>
    cases other with
    | none => exact absurd h type.encoded_ne_nil
    | some other => rw [inj h]

namespace Attribute

/-- The message of an attribute is put together from its parts. -/
theorem toMessage_eq (a : Attribute) : a.toMessage = {
    name := a.name
    type := (a.type?.map ValueType.encoded).getD []
    nested := a.nested.map Object.toMessage
    description := a.description.text
    flags := a.flags
    kind := StringKind.number a.description.kind
    deprecated := a.deprecated } := by
  rcases a with ⟨name, type, _ | ⟨attributes, nesting, low, high⟩, description, flags, deprecated⟩
    <;> rfl

/-- An attribute with explicit formats is put together from its parts. -/
theorem explicit_eq (a : Attribute) : a.explicit =
    { a with nested := a.nested.map Object.explicit, description := a.description.explicit } := by
  rcases a with ⟨name, type, _ | ⟨attributes, nesting, low, high⟩, description, flags, deprecated⟩
    <;> rfl

/-- Attributes are sent alike exactly if they are the same with explicit formats, if this is so
for each of them. -/
theorem allToMessages_inj_of_forall {attributes others : List Attribute}
    (h : ∀ a ∈ attributes, ∀ b : Attribute, a.toMessage = b.toMessage ↔ a.explicit = b.explicit) :
    allToMessages attributes = allToMessages others ↔
      allExplicit attributes = allExplicit others := by
  induction attributes generalizing others with
  | nil => cases others <;> simp [allToMessages, allExplicit]
  | cons a rest ih =>
    obtain ⟨hfirst, hrest⟩ := List.forall_mem_cons.mp h
    cases others with
    | nil => simp [allToMessages, allExplicit]
    | cons b others =>
      rw [allToMessages, allToMessages, allExplicit, allExplicit, List.cons.injEq, List.cons.injEq,
        hfirst b, ih hrest]

/-- Optional objects are sent alike exactly if they are the same with explicit formats, if this is
so for the attributes in them. -/
theorem map_toMessage_inj {object other : Option (Object Attribute)}
    (h : ∀ x ∈ object, ∀ y : Object Attribute,
      allToMessages x.attributes = allToMessages y.attributes ↔
        allExplicit x.attributes = allExplicit y.attributes) :
    object.map Object.toMessage = other.map Object.toMessage ↔
      object.map Object.explicit = other.map Object.explicit := by
  cases object with
  | none => cases other <;> simp
  | some x =>
    cases other with
    | none => simp
    | some y =>
      simp [Object.toMessage, Object.explicit, h x rfl y, nestingNumber_inj]

/-- Two attributes are sent alike exactly if they are one with explicit formats. -/
theorem toMessage_inj {a b : Attribute} : a.toMessage = b.toMessage ↔ a.explicit = b.explicit := by
  induction a using childrenInduction generalizing b with
  | step a ih =>
    have hnested : a.nested.map Object.toMessage = b.nested.map Object.toMessage ↔
        a.nested.map Object.explicit = b.nested.map Object.explicit := by
      refine map_toMessage_inj fun object hobject other => allToMessages_inj_of_forall ?_
      intro child hchild b
      refine ih child ?_
      rw [children, Option.mem_def.mp hobject]
      exact hchild
    rw [toMessage_eq, toMessage_eq, explicit_eq, explicit_eq, Message.Attribute.mk.injEq,
      Attribute.mk.injEq, hnested, ValueType.getD_encoded_inj, Description.explicit_inj]
    tauto

/-- Attributes are sent alike exactly if they are the same with explicit formats. -/
theorem allToMessages_inj {attributes others : List Attribute} :
    allToMessages attributes = allToMessages others ↔
      allExplicit attributes = allExplicit others :=
  allToMessages_inj_of_forall fun _ _ _ => toMessage_inj

end Attribute

/-- Two schemas have one message exactly if they are one with explicit formats. -/
theorem Schema.toMessage_inj {schema other : Schema} :
    schema.toMessage = other.toMessage ↔ schema.explicit = other.explicit := by
  rcases schema with ⟨version, attributes, description, deprecated⟩
  rcases other with ⟨version', attributes', description', deprecated'⟩
  simp only [toMessage, explicit, Block.explicit, Message.Schema.mk.injEq, Option.some.injEq,
    Message.Block.mk.injEq, Schema.mk.injEq, Block.mk.injEq, Attribute.allToMessages_inj,
    Description.explicit_inj]
  tauto

/-- Two schemas are sent as the same bytes exactly if they are one with explicit formats. -/
theorem Schema.encode_toMessage_inj {schema other : Schema} :
    schema.toMessage.encode = other.toMessage.encode ↔ schema.explicit = other.explicit := by
  rw [← toMessage_inj]
  exact ⟨Message.Schema.encode_inj, congrArg _⟩

/-- A description has a format exactly if it has a text. -/
def Description.Told (description : Description) : Prop :=
  description.kind = none ↔ description.text = ""

/-- Descriptions with a format just where there is a text are one if they are with explicit
formats. -/
theorem Description.Told.eq_of_explicit_eq {description other : Description}
    (hdescription : description.Told) (hother : other.Told)
    (h : description.explicit = other.explicit) : description = other := by
  rcases description with ⟨text, kind⟩
  rcases other with ⟨text', kind'⟩
  obtain ⟨rfl, hkind⟩ : text = text' ∧ kind.getD .plain = kind'.getD .plain := by
    simpa [explicit] using h
  have hnone : kind = none ↔ kind' = none := hdescription.trans hother.symm
  cases kind with
  | none => rw [hnone.mp rfl]
  | some kind =>
    cases kind' with
    | none => cases hnone.mpr rfl
    | some kind' => rw [show kind = kind' from hkind]

namespace Attribute

/-- Every description in a tree of records has a format exactly if it has a text. -/
def Told (record : Attribute) : Prop :=
  ∀ steps target, record.Leads steps target → target.description.Told

/-- Lists of trees are one if they are with explicit formats, if this is so for each tree. -/
theorem eq_of_allExplicit_eq {records others : List Attribute}
    (h : ∀ record ∈ records, ∀ other ∈ others, record.explicit = other.explicit → record = other)
    (hexplicit : allExplicit records = allExplicit others) : records = others := by
  induction records generalizing others with
  | nil =>
    cases others with
    | nil => rfl
    | cons other others => cases hexplicit
  | cons record records ih =>
    cases others with
    | nil => cases hexplicit
    | cons other others =>
      obtain ⟨hfirst, hrest⟩ := List.cons.inj hexplicit
      rw [h record (.head _) other (.head _) hfirst,
        ih (fun x hx y hy => h x (.tail _ hx) y (.tail _ hy)) hrest]

/-- Trees with a format just where there is a text are one if they are with explicit formats. -/
theorem Told.eq_of_explicit_eq {record other : Attribute} (hrecord : record.Told)
    (hother : other.Told) (h : record.explicit = other.explicit) : record = other := by
  induction record using childrenInduction generalizing other with
  | step record ih =>
    have hdescription := (hrecord _ _ (.here record)).eq_of_explicit_eq (hother _ _ (.here other))
    have hchildren (hexplicit : allExplicit record.children = allExplicit other.children) :
        record.children = other.children :=
      eq_of_allExplicit_eq (fun child hchild child' hchild' =>
        ih child hchild (Leads.forall_below hrecord hchild) (Leads.forall_below hother hchild'))
        hexplicit
    rw [explicit_eq, explicit_eq] at h
    rcases record with ⟨name, type, nested, description, flags, deprecated⟩
    rcases other with ⟨name', type', nested', description', flags', deprecated'⟩
    obtain ⟨rfl, rfl, hnested, htexts, rfl, rfl⟩ := Attribute.mk.inj h
    obtain rfl := hdescription htexts
    rcases nested with _ | ⟨attributes, nesting, low, high⟩ <;>
      rcases nested' with _ | ⟨attributes', nesting', low', high'⟩ <;> try cases hnested
    · rfl
    · obtain ⟨hattributes, rfl, rfl, rfl⟩ := Object.mk.inj (Option.some.inj hnested)
      obtain rfl : attributes = attributes' := hchildren hattributes
      rfl

end Attribute

/-- Every description in a schema has a format exactly if it has a text. -/
structure Schema.Told (schema : Schema) : Prop where
  description : schema.block.description.Told
  attributes : ∀ a ∈ schema.block.attributes, a.Told

/-- Schemas with a format just where there is a text are one if they are with explicit formats. -/
theorem Schema.Told.eq_of_explicit_eq {schema other : Schema} (hschema : schema.Told)
    (hother : other.Told) (h : schema.explicit = other.explicit) : schema = other := by
  rcases schema with ⟨version, attributes, description, deprecated⟩
  rcases other with ⟨version', attributes', description', deprecated'⟩
  obtain ⟨rfl, hblock⟩ := Schema.mk.inj h
  obtain ⟨hattributes, htexts, rfl⟩ := Block.mk.inj hblock
  obtain rfl : description = description' :=
    hschema.description.eq_of_explicit_eq hother.description htexts
  obtain rfl : attributes = attributes' :=
    Attribute.eq_of_allExplicit_eq (fun a ha b hb =>
      (hschema.attributes a ha).eq_of_explicit_eq (hother.attributes b hb)) hattributes
  rfl

end Wire

/-- What an attribute is converted to has a format just where it has a text. -/
theorem Attribute.told_of_convert {capabilities : Capabilities} {name : String} {path : Path}
    {a : Attribute} {record : Wire.Attribute}
    (h : (a.convert capabilities name path).result = .ok record) : record.Told := by
  induction a using childrenInduction generalizing name path record with
  | step a ih =>
    have hchildren := children_of_convert h
    obtain ⟨-, nested, -, rfl⟩ := convert_eq_ok_iff.mp h
    intro steps target hleads
    cases hleads with
    | here => exact a.documentation.describedBy_toWire.kind_eq_none_iff
    | step hchild hrest =>
      obtain ⟨entry, hentry, hconvert⟩ := Conversion.exists_left_of_mem hchildren hchild
      exact ih entry hentry hconvert _ _ hrest

/-- What a schema is converted to has a format just where it has a text. -/
theorem Schema.told_of_convert {capabilities : Capabilities} {schema : Schema}
    {wire : Wire.Schema} (h : (schema.convert capabilities).result = .ok wire) : wire.Told := by
  obtain ⟨attributes, hattributes, rfl⟩ := convert_eq_ok_iff.mp h
  refine ⟨schema.block.documentation.describedBy_toWire.kind_eq_none_iff, fun record hrecord => ?_⟩
  obtain ⟨entry, -, hconvert⟩ :=
    Conversion.exists_left_of_mem (Attribute.convertAll_eq_ok_iff.mp hattributes) hrecord
  exact Attribute.told_of_convert hconvert

namespace Wire.Schema

/-- Schemas are sent as the same bytes exactly if they are one with each absent format read as
plain, so what two schemas are converted to, for whatever protocol versions, is sent as the same
bytes exactly if it is the same. -/
theorem encode_determines (wire other : Wire.Schema) :
    (wire.toMessage.encode = other.toMessage.encode ↔ wire.explicit = other.explicit) ∧
    ∀ (capabilities capabilities' : Capabilities) (schema schema' : PluginSchema.Schema),
      (schema.convert capabilities).result = .ok wire →
      (schema'.convert capabilities').result = .ok other →
      (wire.toMessage.encode = other.toMessage.encode ↔ wire = other) := by
  refine ⟨encode_toMessage_inj, fun capabilities capabilities' schema schema' h h' => ?_⟩
  have htold := PluginSchema.Schema.told_of_convert h
  have htold' := PluginSchema.Schema.told_of_convert h'
  rw [encode_toMessage_inj]
  exact ⟨htold.eq_of_explicit_eq htold', congrArg _⟩

/-- A volume whose size is in a unit with some texts. -/
def volume (unit : Documentation) : PluginSchema.Schema where
  block := {
    attributes := [
      ("size", .ofGroup {
        mode := .list
        attributes := [
          ("unit", { Attribute.ofType .string .forRequired with documentation := unit })] }
        .forRequired)] }

/-- The same is sent for a unit without texts and one with an empty text, and something else for a
unit that is described, if for another version. A plain format without a text is not seen. -/
theorem encode_determines_volume :
    (∃ v w, ((volume {}).convert .v6).result = .ok v ∧
      ((volume { description := some "" }).convert .v6).result = .ok w ∧
      v.toMessage.encode = w.toMessage.encode) ∧
    (∃ v w, ((volume {}).convert .v6).result = .ok v ∧
      ((volume { description := some "GiB" }).convert
        { version := 7, nestedAttributes := true }).result = .ok w ∧
      v.toMessage.encode ≠ w.toMessage.encode) ∧
    ({ block := { description := { kind := some .plain } } } : Schema).toMessage.encode =
      ({} : Schema).toMessage.encode := by
  have hbare : ((volume {}).convert .v6).result = .ok ((volume {}).record _) := rfl
  have hempty : ((volume { description := some "" }).convert .v6).result =
    .ok ((volume { description := some "" }).record _) := rfl
  have hdescribed : ((volume { description := some "GiB" }).convert
      { version := 7, nestedAttributes := true }).result =
    .ok ((volume { description := some "GiB" }).record _) := rfl
  refine ⟨⟨_, _, hbare, hempty, ?_⟩, ⟨_, _, hbare, hdescribed, fun h => ?_⟩, ?_⟩
  · exact ((encode_determines _ _).2 _ _ _ _ hbare hempty).mpr rfl
  · have heq := ((encode_determines _ _).2 _ _ _ _ hbare hdescribed).mp h
    have hunit := congrArg (fun wire : Schema =>
      (wire.block.attributes.flatMap Attribute.children).map Attribute.description) heq
    exact absurd hunit (by decide)
  · exact (encode_determines _ _).1.mpr rfl

end Wire.Schema

end PluginSchema
