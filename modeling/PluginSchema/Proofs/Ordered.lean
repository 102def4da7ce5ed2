import PluginSchema.Schema
import PluginSchema.Wire.Schema

/-!
# Ordered schemas

The maps of a schema list their entries by ascending name: the fields of an object type, the
attributes of a group or a block, the schemas of a plugin. They stand inside recursive types, so
the order of all maps in a tree is a predicate on the tree. Every entry of an ordered map is the
one that its name finds.
-/

namespace PluginSchema

/-- Every object type inside a type lists its fields by ascending name. -/
inductive AttributeType.Ordered : AttributeType → Prop
  | string : Ordered .string
  | number : Ordered .number
  | int64 : Ordered .int64
  | float64 : Ordered .float64
  | bool : Ordered .bool
  | dynamic : Ordered .dynamic
  | list {element : AttributeType} (h : Ordered element) : Ordered (.list element)
  | set {element : AttributeType} (h : Ordered element) : Ordered (.set element)
  | map {element : AttributeType} (h : Ordered element) : Ordered (.map element)
  | object {fields : List (String × AttributeType)} (ascending : NameMap.Ascending fields)
      (below : ∀ field ∈ fields, Ordered field.2) : Ordered (.object fields)

/-- Every object type inside a wire type lists its fields by ascending name. -/
inductive Wire.ValueType.Ordered : Wire.ValueType → Prop
  | string : Ordered .string
  | number : Ordered .number
  | bool : Ordered .bool
  | dynamic : Ordered .dynamic
  | list {element : Wire.ValueType} (h : Ordered element) : Ordered (.list element)
  | set {element : Wire.ValueType} (h : Ordered element) : Ordered (.set element)
  | map {element : Wire.ValueType} (h : Ordered element) : Ordered (.map element)
  | object {fields : List (String × Wire.ValueType)} (ascending : NameMap.Ascending fields)
      (below : ∀ field ∈ fields, Ordered field.2) : Ordered (.object fields)

namespace Attribute

/-- The attributes nested just below an attribute. An empty group counts as no group. -/
def children (a : Attribute) : NameMap Attribute :=
  match a.group? with
  | some group => group.attributes
  | none => []

/-- An attribute without a group has no children. -/
@[simp] theorem children_of_nested_none (type : Option AttributeType) (flags : Flags)
    (texts : Documentation) : children ⟨type, none, flags, texts⟩ = [] := rfl

/-- The children are the attributes of the group, whether or not it is empty. -/
@[simp] theorem children_of_nested_some (type : Option AttributeType) (group : Group Attribute)
    (flags : Flags) (texts : Documentation) :
    children ⟨type, some group, flags, texts⟩ = group.attributes := by
  rcases group with ⟨mode, _ | ⟨first, rest⟩, low, high⟩ <;> rfl

/-- The group counts exactly when there are children. -/
theorem group?_eq_none_iff {a : Attribute} : a.group? = none ↔ a.children = [] := by
  rcases a with ⟨type, _ | ⟨mode, _ | ⟨first, rest⟩, low, high⟩, flags, texts⟩ <;>
    simp [group?, Group.isEmpty]

mutual

/-- Induction over a tree of attributes: what holds of an attribute whenever it holds of the
attributes just below it holds of every attribute. -/
theorem childrenInduction {motive : Attribute → Prop}
    (step : ∀ a : Attribute, (∀ entry ∈ a.children, motive entry.2) → motive a) :
    (a : Attribute) → motive a
  | ⟨type, none, flags, texts⟩ => step _ (by simp)
  | ⟨type, some ⟨mode, attributes, low, high⟩, flags, texts⟩ =>
    step _ (by simpa using childrenInductionBelow step attributes)

/-- Induction over a tree, for the attributes of a list. -/
theorem childrenInductionBelow {motive : Attribute → Prop}
    (step : ∀ a : Attribute, (∀ entry ∈ a.children, motive entry.2) → motive a) :
    (entries : List (String × Attribute)) → ∀ entry ∈ entries, motive entry.2
  | [] => by simp
  | (_, first) :: rest =>
    List.forall_mem_cons.mpr ⟨childrenInduction step first, childrenInductionBelow step rest⟩

end

/-- Every group and every object type in a tree of attributes is ordered by ascending name. -/
inductive Ordered : Attribute → Prop
  | intro {a : Attribute} (type : ∀ type, a.type? = some type → type.Ordered)
      (ascending : a.children.Ascending) (below : ∀ entry ∈ a.children, Ordered entry.2) :
      Ordered a

/-- The children of an ordered attribute ascend. -/
theorem Ordered.ascending {a : Attribute} (h : a.Ordered) : a.children.Ascending := by
  cases h
  assumption

/-- The children of an ordered attribute are ordered. -/
theorem Ordered.child {a : Attribute} (h : a.Ordered) {entry : String × Attribute}
    (hentry : entry ∈ a.children) : entry.2.Ordered := by
  cases h with
  | intro _ _ below => exact below entry hentry

/-- The type of an ordered attribute is ordered. -/
theorem Ordered.typeOrdered {a : Attribute} (h : a.Ordered) {type : AttributeType}
    (htype : a.type? = some type) : type.Ordered := by
  cases h with
  | intro hordered _ _ => exact hordered type htype

/-- An attribute with an ordered type is ordered. -/
theorem ordered_ofType {type : AttributeType} (h : type.Ordered) (flags : Flags) :
    (ofType type flags).Ordered :=
  .intro (fun _ htype => Option.some.inj htype ▸ h) List.Pairwise.nil fun _ hentry => by
    cases hentry

/-- An attribute with a group is ordered, if the group ascends and its attributes are ordered. -/
theorem ordered_ofGroup {group : Group Attribute} (ascending : NameMap.Ascending group.attributes)
    (below : ∀ entry ∈ group.attributes, entry.2.Ordered) (flags : Flags) :
    (ofGroup group flags).Ordered := by
  refine .intro (fun _ htype => by cases htype) ?_ ?_
  · rwa [ofGroup, children_of_nested_some]
  · rwa [ofGroup, children_of_nested_some]

end Attribute

/-- The attributes of a block ascend, and each of them is ordered. -/
structure Block.Ordered (block : Block) : Prop where
  ascending : NameMap.Ascending block.attributes
  below : ∀ entry ∈ block.attributes, entry.2.Ordered

/-- The maps of a plugin's schemas ascend, and each schema's block is ordered. -/
structure ProviderSchema.Ordered (schemas : ProviderSchema) : Prop where
  provider : schemas.provider.block.Ordered
  resources : NameMap.Ascending schemas.resources
  dataSources : NameMap.Ascending schemas.dataSources
  resource : ∀ entry ∈ schemas.resources, entry.2.block.Ordered
  dataSource : ∀ entry ∈ schemas.dataSources, entry.2.block.Ordered

end PluginSchema
