import PluginSchema.Proofs.Conversion.Authored
import PluginSchema.Proofs.Conversion.Mirror

/-!
# What conversion can yield

A record is the conversion of some attribute exactly if every record in its tree is sound. One
direction is an invariant of conversion; for the other, a sound record is written back as an
attribute, which converts to it.
-/

namespace PluginSchema

open Conversion (Run)

namespace Wire

/-- An object that a conversion can yield has attributes, by ascending name, and bounds that are
not negative, and that are zero unless it is repeated as a list or a set. -/
structure Object.Sound (object : Object Wire.Attribute) : Prop where
  nonempty : object.attributes ≠ []
  ascending : (object.attributes.map Attribute.name).Pairwise (· < ·)
  minItems : 0 ≤ object.minItems.toInt ∧ object.minItems.toInt ≤ 2 ^ 63 - 1
  maxItems : 0 ≤ object.maxItems.toInt ∧ object.maxItems.toInt ≤ 2 ^ 63 - 1
  unbounded : object.nesting = .single ∨ object.nesting = .map →
    object.minItems = 0 ∧ object.maxItems = 0

/-- A record that a conversion can yield has either a type or an object, and an object only if the
protocol version carries it. Somebody sets it, it is not both required and optional, and its
description has a format exactly if it has a text. -/
structure Attribute.Sound (capabilities : Capabilities) (record : Wire.Attribute) : Prop where
  oneForm : record.type?.isSome = record.nested.isNone
  set : record.flags.required ∨ record.flags.optional ∨ record.flags.computed
  notBoth : ¬(record.flags.required ∧ record.flags.optional)
  kind : record.description.kind = none ↔ record.description.text = ""
  object : ∀ object, record.nested = some object → object.Sound
  carried : capabilities.nestedAttributes = false → record.nested = none

/-- Every object type in a tree of records lists its fields by ascending name, as a map does. -/
def Attribute.TypesOrdered (record : Wire.Attribute) : Prop :=
  ∀ steps target, record.Leads steps target → ∀ type, target.type? = some type → type.Ordered

end Wire

namespace Attribute

/-- An attribute without a fault keeps to the rules about groups and flags. -/
theorem fault?_eq_none_iff {capabilities : Capabilities} {path : Path} {a : Attribute} :
    a.fault? capabilities path = none ↔
      a.type?.isSome = a.group?.isNone ∧
      (a.flags.required ∨ a.flags.optional ∨ a.flags.computed) ∧
      ¬(a.flags.required ∧ a.flags.optional) ∧
      (capabilities.nestedAttributes = false → a.group? = none) := by
  unfold fault?
  cases a.type? <;> cases a.group? <;> cases capabilities.nestedAttributes <;>
    cases a.flags.required <;> cases a.flags.optional <;> cases a.flags.computed <;> simp

/-- A node of an ordered tree is ordered. -/
theorem Ordered.node? {a x : Attribute} (h : a.Ordered) {steps : List String}
    (hnode : a.node? steps = some x) : x.Ordered := by
  induction steps generalizing a with
  | nil =>
    obtain rfl : a = x := Option.some.inj hnode
    exact h
  | cons name rest ih =>
    obtain ⟨child, hchild, hrest⟩ := Option.bind_eq_some_iff.mp hnode
    exact ih (h.child ((NameMap.get?_eq_some_iff h.ascending).mp hchild)) hrest

/-- The bounds of a group on the wire are numbers from zero to the greatest one. -/
theorem toInt_bound (group : Group Attribute) (n : UInt64) :
    0 ≤ (group.bound n).toInt ∧ (group.bound n).toInt ≤ 2 ^ 63 - 1 := by
  have hsaturated : 0 ≤ (saturated n).toInt ∧ (saturated n).toInt ≤ 2 ^ 63 - 1 := by
    rw [toInt_saturated]
    omega
  have hzero : 0 ≤ (0 : Int64).toInt ∧ (0 : Int64).toInt ≤ 2 ^ 63 - 1 := by decide
  unfold Group.bound
  cases group.mode with
  | list | set => exact hsaturated
  | single | map => exact hzero

/-- The object of a group is sound, if the group has attributes, which ascend. -/
theorem sound_toWire {group : Group Attribute} {nested : List Wire.Attribute}
    (hne : group.attributes ≠ []) (hascending : NameMap.Ascending group.attributes)
    (hnames : nested.map Wire.Attribute.name = group.attributes.map Prod.fst) :
    (group.toWire nested).Sound where
  nonempty hnested := by
    change nested = [] at hnested
    rw [hnested] at hnames
    exact hne (List.map_eq_nil_iff.mp hnames.symm)
  ascending := by
    change (nested.map Wire.Attribute.name).Pairwise (· < ·)
    rw [hnames, List.pairwise_map]
    exact hascending
  minItems := toInt_bound group group.minItems
  maxItems := toInt_bound group group.maxItems
  unbounded hmode := by
    change group.mode = .single ∨ group.mode = .map at hmode
    rcases hmode with hmode | hmode <;> simp [Group.toWire, Group.bound, hmode]

/-- The record of an ordered attribute that converts is sound. -/
theorem sound_of_convert {capabilities : Capabilities} {name : String} {path : Path}
    {a : Attribute} (h : a.Ordered) {record : Wire.Attribute}
    (hrecord : (a.convert capabilities name path).result = .ok record) :
    record.Sound capabilities := by
  obtain ⟨hfault, nested, hnested, rfl⟩ := convert_eq_ok_iff.mp hrecord
  obtain ⟨honeForm, hset, hnotBoth, hcarried⟩ := fault?_eq_none_iff.mp hfault
  refine ⟨by simpa [record] using honeForm, hset, hnotBoth,
    a.documentation.describedBy_toWire.kind_eq_none_iff, ?_,
    fun hnesting => by simp [record, hcarried hnesting]⟩
  intro object hobject
  obtain ⟨group, hgroup, rfl⟩ := Option.map_eq_some_iff.mp hobject
  have hchildren : a.children = group.attributes := by simp [children, hgroup]
  refine sound_toWire ?_ (hchildren ▸ h.ascending) (hchildren ▸ convertAll_names hnested)
  rw [← hchildren, ne_eq, ← group?_eq_none_iff]
  simp [hgroup]

/-- The type in the record of an ordered attribute is ordered. -/
theorem typeOrdered_of_convert {capabilities : Capabilities} {name : String} {path : Path}
    {a : Attribute} (h : a.Ordered) {record : Wire.Attribute}
    (hrecord : (a.convert capabilities name path).result = .ok record) {type : Wire.ValueType}
    (htype : record.type? = some type) : type.Ordered := by
  obtain ⟨-, nested, -, rfl⟩ := convert_eq_ok_iff.mp hrecord
  obtain ⟨authored, hauthored, rfl⟩ := Option.map_eq_some_iff.mp htype
  exact (h.typeOrdered hauthored).toWire

end Attribute

namespace Wire.Attribute

/-- A sound object is put together again from the group that is authored for it. -/
theorem toWire_authoredAll {object : Object Wire.Attribute} (h : object.Sound) :
    Group.toWire (⟨object.nesting, authoredAll object.attributes, object.minItems.toUInt64,
      object.maxItems.toUInt64⟩ : Group PluginSchema.Attribute) object.attributes = object := by
  rcases object with ⟨attributes, nesting, low, high⟩
  have hlow := saturated_toUInt64 h.minItems.1
  have hhigh := saturated_toUInt64 h.maxItems.1
  have hunbounded := h.unbounded
  cases nesting <;> simp_all [Group.toWire, Group.bound]

/-- A sound record is put together again from what is authored for it. -/
theorem record_authored {capabilities : Capabilities} {record : Wire.Attribute}
    (h : record.Sound capabilities) :
    record.authored.record record.name record.children = record := by
  have hgroup := group?_authored fun object hobject => (h.object object hobject).nonempty
  have hdescription := Description.toWire_authored record.deprecated h.kind
  have hdeprecated := Description.isDeprecated_authored record.description record.deprecated
  have hobject := h.object
  unfold PluginSchema.Attribute.record
  rw [hgroup, type?_authored, flags_authored, documentation_authored, hdescription, hdeprecated]
  rcases record with ⟨name, type, _ | object, description, flags, deprecated⟩
  · simp [Function.comp_def, ValueType.toWire_authored]
  · simp [Function.comp_def, ValueType.toWire_authored, children,
      toWire_authoredAll (hobject object rfl)]

/-- The records below a sound record ascend. -/
theorem Sound.ascending_children {capabilities : Capabilities} {record : Wire.Attribute}
    (h : record.Sound capabilities) : (record.children.map name).Pairwise (· < ·) := by
  unfold children
  cases hnested : record.nested with
  | none => exact List.Pairwise.nil
  | some object => exact (h.object object hnested).ascending

/-- What is authored for a sound record has no fault. -/
theorem fault?_authored {capabilities : Capabilities} {record : Wire.Attribute}
    (h : record.Sound capabilities) (path : Path) :
    record.authored.fault? capabilities path = none := by
  rw [PluginSchema.Attribute.fault?_eq_none_iff,
    group?_authored fun object hobject => (h.object object hobject).nonempty]
  simp only [type?_authored, flags_authored, Option.isSome_map, Option.isNone_map,
    Option.map_eq_none_iff]
  exact ⟨h.oneForm, h.set, h.notBoth, h.carried⟩

/-- What is authored for a tree of sound records is ordered and converts to it. -/
theorem convert_authored {capabilities : Capabilities} {record : Wire.Attribute}
    (hsound : ∀ steps target, record.Leads steps target → target.Sound capabilities)
    (htypes : record.TypesOrdered) :
    record.authored.Ordered ∧ ∀ path,
      (record.authored.convert capabilities record.name path).result = .ok record := by
  induction record using childrenInduction with
  | step record ih =>
    have hhere := hsound [] record (.here record)
    have hbelow (child : Wire.Attribute) (hchild : child ∈ record.children) :=
      ih child hchild (Leads.forall_below hsound hchild) (Leads.forall_below htypes hchild)
    constructor
    · refine .intro ?_ ?_ ?_
      · intro type htype
        rw [type?_authored] at htype
        obtain ⟨wire, hwire, rfl⟩ := Option.map_eq_some_iff.mp htype
        exact (htypes [] record (.here record) wire hwire).authored
      · rw [children_authored]
        exact List.pairwise_map.mpr (List.pairwise_map.mp hhere.ascending_children)
      · rw [children_authored]
        intro entry hentry
        obtain ⟨child, hchild, rfl⟩ := List.mem_map.mp hentry
        exact (hbelow child hchild).1
    · intro path
      refine PluginSchema.Attribute.convert_eq_ok_iff.mpr
        ⟨fault?_authored hhere path, record.children, ?_, record_authored hhere⟩
      rw [PluginSchema.Attribute.convertAll_eq_ok_iff, children_authored,
        List.forall₂_map_left_iff, List.forall₂_same]
      exact fun child hchild => (hbelow child hchild).2 _

/-- A record whose object types are maps is the conversion of some attribute exactly if it and
all records nested in it are sound. -/
theorem exists_convert_iff_sound (capabilities : Capabilities) (record : Wire.Attribute) :
    (∃ a path, a.Ordered ∧
      (PluginSchema.Attribute.convert capabilities record.name path a).result = .ok record) ↔
      record.TypesOrdered ∧
        ∀ steps target, record.Leads steps target → target.Sound capabilities := by
  constructor
  · rintro ⟨a, path, h, hrecord⟩
    refine ⟨fun steps target hleads type htype => ?_, fun steps target hleads => ?_⟩ <;>
      obtain ⟨x, hnode, htarget⟩ :=
        PluginSchema.Attribute.exists_node?_of_leads hleads h hrecord
    · exact PluginSchema.Attribute.typeOrdered_of_convert (h.node? hnode) htarget htype
    · exact PluginSchema.Attribute.sound_of_convert (h.node? hnode) htarget
  · rintro ⟨htypes, hsound⟩
    obtain ⟨hordered, hconvert⟩ := convert_authored hsound htypes
    exact ⟨record.authored, .root, hordered, hconvert .root⟩

end Wire.Attribute

end PluginSchema
