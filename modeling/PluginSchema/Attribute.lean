import PluginSchema.AttributeType

/-!
# Attributes

An attribute has a type or a group of nested attributes, flags that say who sets it, and
documentation. Authors may build attributes that no protocol can carry, such as one with
neither a type nor a group: `Validation` tells which are sound.
-/

namespace PluginSchema

/-- Who sets an attribute, and whether its value is secret. -/
structure Flags where
  required : Bool := false
  optional : Bool := false
  computed : Bool := false
  sensitive : Bool := false
  deriving DecidableEq

/-- How often the object that a group describes occurs. -/
inductive NestingMode where
  | single
  | list
  | set
  | map
  deriving DecidableEq

/-- The texts that an author gives for people to read. -/
structure Documentation where
  description : Option String := none
  markdown : Option String := none
  deprecation : Option String := none
  deriving DecidableEq

/-- A group of nested attributes of type `α`, with bounds on how often it occurs. -/
structure Group (α : Type) where
  mode : NestingMode := .single
  attributes : List (String × α) := []
  minItems : UInt64 := 0
  maxItems : UInt64 := 0

/-- An attribute of a schema. -/
structure Attribute where
  type? : Option AttributeType := none
  nested : Option (Group Attribute) := none
  flags : Flags := {}
  documentation : Documentation := {}

namespace Flags

/-- The configuration must set the attribute. -/
def forRequired : Flags := { required := true }

/-- The configuration may set the attribute. -/
def forOptional : Flags := { optional := true }

/-- The plugin sets the attribute. -/
def forComputed : Flags := { computed := true }

/-- The configuration may set the attribute, and the plugin sets it otherwise. -/
def forOptionalComputed : Flags := { optional := true, computed := true }

end Flags

/-- A group without attributes counts as no group. -/
def Group.isEmpty {α : Type} (group : Group α) : Bool := group.attributes.isEmpty

namespace Attribute

/-- An attribute with values of a type. -/
def ofType (type : AttributeType) (flags : Flags) : Attribute :=
  { type? := some type, flags }

/-- An attribute that holds nested attributes. -/
def ofGroup (group : Group Attribute) (flags : Flags) : Attribute :=
  { nested := some group, flags }

/-- Give the plain description. -/
def withDescription (a : Attribute) (text : String) : Attribute :=
  { a with documentation := { a.documentation with description := some text } }

/-- Give the markdown description. -/
def withMarkdown (a : Attribute) (text : String) : Attribute :=
  { a with documentation := { a.documentation with markdown := some text } }

/-- Deprecate the attribute with a message. -/
def withDeprecation (a : Attribute) (text : String) : Attribute :=
  { a with documentation := { a.documentation with deprecation := some text } }

/-- Mark the values as secret. -/
def asSensitive (a : Attribute) : Attribute :=
  { a with flags := { a.flags with sensitive := true } }

/-- The group of nested attributes, unless it is empty. -/
def group? (a : Attribute) : Option (Group Attribute) :=
  a.nested.filter fun group => !group.isEmpty

mutual

/-- Whether two attributes are one attribute. -/
def same : Attribute → Attribute → Bool
  | ⟨type, none, flags, texts⟩, ⟨type', none, flags', texts'⟩ =>
    type == type' && flags == flags' && texts == texts'
  | ⟨type, some ⟨mode, children, low, high⟩, flags, texts⟩,
      ⟨type', some ⟨mode', children', low', high'⟩, flags', texts'⟩ =>
    type == type' && mode == mode' && sameAll children children' && low == low' && high == high'
      && flags == flags' && texts == texts'
  | _, _ => false

/-- Whether two lists of attributes agree in names, attributes and order. -/
def sameAll : NameMap Attribute → NameMap Attribute → Bool
  | [], [] => true
  | (m, a) :: as, (n, b) :: bs => m == n && a.same b && sameAll as bs
  | _, _ => false

end

mutual

theorem eq_of_same : (a b : Attribute) → a.same b = true → a = b
  | ⟨_, none, _, _⟩, ⟨_, none, _, _⟩, h => by
    simp only [same, Bool.and_eq_true, beq_iff_eq] at h
    simp [h]
  | ⟨_, none, _, _⟩, ⟨_, some _, _, _⟩, h => by simp [same] at h
  | ⟨_, some _, _, _⟩, ⟨_, none, _, _⟩, h => by simp [same] at h
  | ⟨_, some ⟨_, as, _, _⟩, _, _⟩, ⟨_, some ⟨_, bs, _, _⟩, _, _⟩, h => by
    simp only [same, Bool.and_eq_true, beq_iff_eq] at h
    simp [h, eq_of_sameAll as bs h.1.1.1.1.2]

theorem eq_of_sameAll : (as bs : NameMap Attribute) → sameAll as bs = true → as = bs
  | [], [], _ => rfl
  | [], _ :: _, h => by simp [sameAll] at h
  | _ :: _, [], h => by simp [sameAll] at h
  | (m, a) :: as, (n, b) :: bs, h => by
    simp only [sameAll, Bool.and_eq_true, beq_iff_eq] at h
    rw [h.1.1, eq_of_same a b h.1.2, eq_of_sameAll as bs h.2]

end

mutual

theorem same_self : (a : Attribute) → a.same a = true
  | ⟨_, none, _, _⟩ => by simp [same]
  | ⟨_, some ⟨_, as, _, _⟩, _, _⟩ => by simp [same, sameAll_self as]

theorem sameAll_self : (as : NameMap Attribute) → sameAll as as = true
  | [] => rfl
  | (_, a) :: as => by simp [sameAll, same_self a, sameAll_self as]

end

/-- The comparison decides equality. -/
theorem same_iff {a b : Attribute} : a.same b = true ↔ a = b :=
  ⟨eq_of_same a b, fun h => h ▸ same_self a⟩

instance : DecidableEq Attribute := fun _ _ => decidable_of_iff _ same_iff

end Attribute

deriving instance DecidableEq for Group

end PluginSchema
