import PluginSchema.Proofs.Conversion.Mirror
import PluginSchema.Proofs.Conversion.Normal

/-!
# What conversion forgets

Two schemas that convert have one result exactly if they have one normal form: conversion keeps
apart all that the normal form keeps apart, and nothing else. In particular nobody can tell from
the result how a deprecation is worded, or what a plain description says behind a markdown one.
That holds of the whole run, whether or not it succeeds: its events do not tell it either.
-/

namespace PluginSchema

open Conversion (Run)

namespace Attribute

variable {capabilities : Capabilities} {name name' : String} {path path' : Path}
  {a b : Attribute}

/-- Two records are one exactly if the names and the normal forms of the attributes are, if this
is so for the records below them. -/
theorem record_eq_iff {nested nested' : List Wire.Attribute}
    (h : nested = nested' ↔ normalAll a.children = normalAll b.children) :
    a.record name nested = b.record name' nested' ↔ name = name' ∧ a.normal = b.normal := by
  have htype : a.type?.map AttributeType.toWire = b.type?.map AttributeType.toWire ↔
      a.type?.map AttributeType.normal = b.type?.map AttributeType.normal := by
    cases a.type? <;> cases b.type? <;> simp [AttributeType.toWire_eq_iff]
  have hgroup : (a.group?.map fun group => group.toWire nested) =
        (b.group?.map fun group => group.toWire nested') ↔
      (a.group?.map fun group => group.normal (normalAll a.children)) =
        b.group?.map fun group => group.normal (normalAll b.children) := by
    cases a.group? <;> cases b.group? <;> simp [Group.toWire_eq_iff h]
  simp only [record, normal_eq, Wire.Attribute.mk.injEq, Normal.Attribute.mk.injEq, htype, hgroup,
    Documentation.normal_eq_iff]
  tauto

/-- Two lists of attributes that convert have the same records exactly if they have the same
names and normal forms, if this is so entry by entry. -/
theorem convertAll_eq_iff_of_forall {entries others : List (String × Attribute)}
    (hentry : ∀ entry ∈ entries, ∀ (other : String × Attribute) (r r' : Wire.Attribute),
      (entry.2.convert capabilities entry.1 (path.child entry.1)).result = .ok r →
      (other.2.convert capabilities other.1 (path'.child other.1)).result = .ok r' →
      (r = r' ↔ entry.1 = other.1 ∧ entry.2.normal = other.2.normal))
    {records records' : List Wire.Attribute}
    (h : (convertAll capabilities path entries).result = .ok records)
    (h' : (convertAll capabilities path' others).result = .ok records') :
    records = records' ↔ normalAll entries = normalAll others := by
  rw [convertAll_eq_ok_iff] at h h'
  induction h generalizing others records' with
  | nil => cases h' <;> simp [normalAll]
  | cons hfirst _ ih =>
    cases h' with
    | nil => simp [normalAll]
    | cons hfirst' hrest' =>
      obtain ⟨hhead, htail⟩ := List.forall_mem_cons.mp hentry
      rw [normalAll, normalAll, List.cons.injEq, List.cons.injEq, Prod.mk.injEq,
        hhead _ _ _ hfirst hfirst', ih htail hrest']

/-- Two attributes that convert have one record exactly if they have one name and one normal
form. -/
theorem convert_eq_iff {r r' : Wire.Attribute}
    (hr : (a.convert capabilities name path).result = .ok r)
    (hr' : (b.convert capabilities name' path').result = .ok r') :
    r = r' ↔ name = name' ∧ a.normal = b.normal := by
  induction a using childrenInduction generalizing b name name' path path' r r' with
  | step a ih =>
    obtain ⟨-, nested, hnested, rfl⟩ := convert_eq_ok_iff.mp hr
    obtain ⟨-, nested', hnested', rfl⟩ := convert_eq_ok_iff.mp hr'
    exact record_eq_iff (convertAll_eq_iff_of_forall
      (fun entry hentry _ _ _ h h' => ih entry hentry h h') hnested hnested')

/-- Two lists of attributes that convert have the same records exactly if they have the same
names and normal forms. -/
theorem convertAll_eq_iff {entries others : List (String × Attribute)}
    {records records' : List Wire.Attribute}
    (h : (convertAll capabilities path entries).result = .ok records)
    (h' : (convertAll capabilities path' others).result = .ok records') :
    records = records' ↔ normalAll entries = normalAll others :=
  convertAll_eq_iff_of_forall (fun _ _ _ _ _ h h' => convert_eq_iff h h') h h'

end Attribute

/-- Two schemas that convert have one result exactly if they have one normal form. -/
theorem Schema.convert_eq_iff {capabilities : Capabilities} {schema other : Schema}
    {wire wire' : Wire.Schema} (h : (schema.convert capabilities).result = .ok wire)
    (h' : (other.convert capabilities).result = .ok wire') :
    wire = wire' ↔ schema.normal = other.normal := by
  obtain ⟨attributes, hattributes, rfl⟩ := convert_eq_ok_iff.mp h
  obtain ⟨attributes', hattributes', rfl⟩ := convert_eq_ok_iff.mp h'
  simp only [record, normal, Block.normal, Wire.Schema.mk.injEq, Wire.Block.mk.injEq,
    Normal.Schema.mk.injEq, Normal.Block.mk.injEq, saturated_eq_iff,
    Attribute.convertAll_eq_iff hattributes hattributes', Documentation.normal_eq_iff]

/-- One author's texts reword another's: the markdown is the same, the plain description is the
same unless markdown hides it, and both deprecate or neither does. -/
structure Documentation.Rewords (texts other : Documentation) : Prop where
  markdown : texts.markdown = other.markdown
  description : Given other.markdown ∨ texts.description = other.description
  deprecation : Given texts.deprecation ↔ Given other.deprecation

/-- The description that is sent is the same in other words. -/
theorem Documentation.Rewords.toWire_eq {texts other : Documentation} (h : texts.Rewords other) :
    texts.toWire = other.toWire := by
  have hdescribed := other.describedBy_toWire
  refine texts.describedBy_toWire.unique ?_
  generalize other.toWire = wire at hdescribed
  cases hdescribed with
  | markdown htext hne => exact .markdown (h.markdown.trans htext) hne
  | plain hmarkdown htext hne =>
    refine .plain (h.markdown ▸ hmarkdown) ?_ hne
    exact (h.description.resolve_left hmarkdown).trans htext
  | nothing hmarkdown hplain =>
    exact .nothing (h.markdown ▸ hmarkdown) (h.description.resolve_left hmarkdown ▸ hplain)

/-- A deprecation stays one in other words. -/
theorem Documentation.Rewords.isDeprecated_eq {texts other : Documentation}
    (h : texts.Rewords other) : texts.isDeprecated = other.isDeprecated := by
  rw [Bool.eq_iff_iff, isDeprecated_iff, isDeprecated_iff]
  exact h.deprecation

/-- A change of the texts in a tree, which may depend on where they stand. -/
abbrev Edit := List String → Documentation → Documentation

/-- An edit below a name. -/
def Edit.below (edit : Edit) (name : String) : Edit := fun steps => edit (name :: steps)

/-- An edit that only rewords. -/
def Edit.Rewords (edit : Edit) : Prop := ∀ steps texts, (edit steps texts).Rewords texts

/-- An edit that only rewords does so below each name. -/
theorem Edit.Rewords.below {edit : Edit} (h : edit.Rewords) (name : String) :
    (edit.below name).Rewords := fun steps => h (name :: steps)

namespace Attribute

mutual

/-- The attribute with the texts of all attributes in its tree changed. -/
def edited (edit : Edit) : Attribute → Attribute
  | ⟨type, none, flags, texts⟩ => ⟨type, none, flags, edit [] texts⟩
  | ⟨type, some ⟨mode, attributes, low, high⟩, flags, texts⟩ =>
    ⟨type, some ⟨mode, editedAll edit attributes, low, high⟩, flags, edit [] texts⟩

/-- Named attributes with the texts in their trees changed. -/
def editedAll (edit : Edit) : List (String × Attribute) → List (String × Attribute)
  | [] => []
  | (name, a) :: rest => (name, a.edited (edit.below name)) :: editedAll edit rest

end

variable {edit : Edit}

@[simp] theorem type?_edited (edit : Edit) (a : Attribute) : (a.edited edit).type? = a.type? := by
  rcases a with ⟨type, _ | group, flags, texts⟩ <;> rfl

@[simp] theorem flags_edited (edit : Edit) (a : Attribute) : (a.edited edit).flags = a.flags := by
  rcases a with ⟨type, _ | group, flags, texts⟩ <;> rfl

@[simp] theorem documentation_edited (edit : Edit) (a : Attribute) :
    (a.edited edit).documentation = edit [] a.documentation := by
  rcases a with ⟨type, _ | group, flags, texts⟩ <;> rfl

/-- The group of an edited attribute has edited attributes, and is the same otherwise. -/
@[simp] theorem group?_edited (edit : Edit) (a : Attribute) :
    (a.edited edit).group? =
      a.group?.map fun group => { group with attributes := editedAll edit group.attributes } := by
  rcases a with ⟨type, _ | ⟨mode, _ | ⟨first, rest⟩, low, high⟩, flags, texts⟩ <;> rfl

/-- Below an edited attribute stand the edited children. -/
theorem children_edited (edit : Edit) (a : Attribute) :
    (a.edited edit).children = editedAll edit a.children := by
  rcases a with ⟨type, _ | ⟨mode, attributes, low, high⟩, flags, texts⟩
  · rfl
  · rw [edited, children_of_nested_some, children_of_nested_some]

/-- An edit leaves the fault of an attribute. -/
theorem fault?_edited (edit : Edit) (a : Attribute) :
    (a.edited edit).fault? capabilities path = a.fault? capabilities path := by
  simp [fault?]

/-- Other words for the texts of an attribute leave its record. -/
theorem record_edited (h : edit.Rewords) (a : Attribute) (nested : List Wire.Attribute) :
    (a.edited edit).record name nested = a.record name nested := by
  have htexts := h [] a.documentation
  simp [record, htexts.toWire_eq, htexts.isDeprecated_eq, Function.comp_def, Group.toWire,
    Group.bound]

/-- Edited attributes are converted as they were, if this is so entry by entry. -/
theorem convertAll_editedAll_of_forall {entries : List (String × Attribute)}
    (h : ∀ entry ∈ entries, (entry.2.edited (edit.below entry.1)).convert capabilities entry.1
      (path.child entry.1) = entry.2.convert capabilities entry.1 (path.child entry.1)) :
    convertAll capabilities path (editedAll edit entries) =
      convertAll capabilities path entries := by
  induction entries with
  | nil => rfl
  | cons entry rest ih =>
    obtain ⟨hentry, hrest⟩ := List.forall_mem_cons.mp h
    rw [editedAll, convertAll, convertAll, hentry, ih hrest]

/-- An attribute is converted as it was, with the same events, after an edit that only rewords. -/
theorem convert_edited (h : edit.Rewords) (a : Attribute) :
    (a.edited edit).convert capabilities name path = a.convert capabilities name path := by
  induction a using childrenInduction generalizing edit name path with
  | step a ih =>
    have hannounce : (a.edited edit).announce capabilities name path =
        a.announce capabilities name path := by
      rw [announce, announce, check_eq, check_eq, fault?_edited]
    have hchildren : convertAll capabilities path (editedAll edit a.children) =
        convertAll capabilities path a.children :=
      convertAll_editedAll_of_forall fun entry hentry => ih entry hentry (h.below entry.1)
    rw [convert_eq, convert_eq, hannounce, children_edited, hchildren]
    simp only [record_edited h]

end Attribute

namespace Schema

/-- The schema with the texts of its block and of all attributes changed. -/
def edited (edit : Edit) (schema : Schema) : Schema where
  version := schema.version
  block := {
    attributes := Attribute.editedAll edit schema.block.attributes
    documentation := edit [] schema.block.documentation }

/-- A schema is converted as it was, with the same events, after an edit that only rewords. -/
theorem convert_edited {capabilities : Capabilities} {edit : Edit} (h : edit.Rewords)
    (schema : Schema) :
    (schema.edited edit).convert capabilities = schema.convert capabilities := by
  have hattributes : Attribute.convertAll capabilities .root
      (Attribute.editedAll edit schema.block.attributes) =
        Attribute.convertAll capabilities .root schema.block.attributes :=
    Attribute.convertAll_editedAll_of_forall fun entry _ =>
      Attribute.convert_edited (h.below entry.1) entry.2
  have htexts := h [] schema.block.documentation
  simp only [convert, edited, Block.convert, hattributes, htexts.toWire_eq,
    htexts.isDeprecated_eq]

/-- Schemas that convert have one result exactly if they have one normal form, and other words for
hidden descriptions and deprecations change nothing about a conversion. -/
theorem convert_forgets_exactly (capabilities : Capabilities) (schema other : Schema) :
    (∀ wire wire', (schema.convert capabilities).result = .ok wire →
      (other.convert capabilities).result = .ok wire' →
      (wire = wire' ↔ schema.normal = other.normal)) ∧
    ∀ edit : Edit, edit.Rewords →
      (schema.edited edit).convert capabilities = schema.convert capabilities :=
  ⟨fun _ _ h h' => convert_eq_iff h h', fun _ h => convert_edited h schema⟩

/-- A disk, whose size is deprecated. Markdown hides the plain description of its sectors. -/
def disk : Schema where
  version := 9223372036854775808
  block := {
    attributes := [
      ("sectors", .ofGroup {
        mode := .list
        attributes := [("start", (Attribute.ofType .int64 .forComputed).withDescription "at")]
        maxItems := 18446744073709551615 } .forComputed),
      ("size", (Attribute.ofType .float64 .forRequired).withDeprecation "use sectors")]
    documentation := { description := some "a disk", markdown := some "a *disk*" } }

/-- The same disk with less said about it that does not matter. -/
def plainDisk : Schema where
  version := 18446744073709551615
  block := {
    attributes := [
      ("sectors", .ofGroup {
        mode := .list
        attributes := [("start", (Attribute.ofType .number .forComputed).withDescription "at")]
        maxItems := 9223372036854775807 } .forComputed),
      ("size", {
        Attribute.ofType .number .forRequired with
        nested := some {}
        documentation := { markdown := some "", deprecation := some "gone" } })]
    documentation := { markdown := some "a *disk*" } }

/-- An edit that words every deprecation alike. -/
def uniformDeprecation : Edit := fun _ texts =>
  { texts with deprecation := texts.deprecation.map fun text => if text = "" then "" else "old" }

/-- Both disks have one result, and so has the disk with its deprecation in other words, while
another version, one below the cut, is told apart. -/
theorem convert_forgets_exactly_disk :
    (∃ wire, (disk.convert .v6).result = .ok wire ∧ (plainDisk.convert .v6).result = .ok wire) ∧
    (disk.edited uniformDeprecation).convert .v6 = disk.convert .v6 ∧
    ∃ wire wire', (disk.convert .v6).result = .ok wire ∧
      (({ disk with version := 9223372036854775806 } : Schema).convert .v6).result = .ok wire' ∧
      wire ≠ wire' := by
  have hrewords : uniformDeprecation.Rewords := by
    intro steps texts
    refine ⟨rfl, .inr rfl, ?_⟩
    rcases texts with ⟨plain, markdown, _ | text⟩
    · rfl
    · by_cases h : text = "" <;> simp [uniformDeprecation, Given, h]
  have hdisk : (disk.convert .v6).result = .ok (disk.record _) := rfl
  have hplain : (plainDisk.convert .v6).result = .ok (plainDisk.record _) := rfl
  have hearlier : (({ disk with version := 9223372036854775806 } : Schema).convert .v6).result =
    .ok (Schema.record { disk with version := 9223372036854775806 } _) := rfl
  have hone := ((convert_forgets_exactly .v6 disk plainDisk).1 _ _ hdisk hplain).mpr rfl
  refine ⟨⟨_, hdisk, hone ▸ hplain⟩, (convert_forgets_exactly .v6 disk disk).2 _ hrewords,
    _, _, hdisk, hearlier, fun heq => ?_⟩
  have hversion := congrArg Normal.Schema.version
    (((convert_forgets_exactly .v6 disk _).1 _ _ hdisk hearlier).mp heq)
  exact absurd hversion (by decide)

end Schema

end PluginSchema
