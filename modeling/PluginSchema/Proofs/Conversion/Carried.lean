import PluginSchema.Proofs.Conversion.Result
import PluginSchema.Proofs.Records

/-!
# What a record carries of an attribute

The rules by which one record stands for one attribute, whatever is nested in either: every kind
of number is a number, a group keeps its mode and its names, bounds count for lists and sets only
and are cut off at the greatest number that the wire can carry, one description stands for two,
and of a deprecation only the fact is told. A converted attribute keeps to these rules.
-/

namespace PluginSchema

mutual

/-- A wire type stands for a type: all numbers are alike, and compound types agree in their
parts. -/
inductive AttributeType.CarriedBy : AttributeType → Wire.ValueType → Prop
  | string : CarriedBy .string .string
  | number : CarriedBy .number .number
  | int64 : CarriedBy .int64 .number
  | float64 : CarriedBy .float64 .number
  | bool : CarriedBy .bool .bool
  | dynamic : CarriedBy .dynamic .dynamic
  | list {element : AttributeType} {wire : Wire.ValueType} (h : CarriedBy element wire) :
      CarriedBy (.list element) (.list wire)
  | set {element : AttributeType} {wire : Wire.ValueType} (h : CarriedBy element wire) :
      CarriedBy (.set element) (.set wire)
  | map {element : AttributeType} {wire : Wire.ValueType} (h : CarriedBy element wire) :
      CarriedBy (.map element) (.map wire)
  | object {fields : List (String × AttributeType)} {wires : List (String × Wire.ValueType)}
      (h : AttributeType.FieldsCarriedBy fields wires) : CarriedBy (.object fields) (.object wires)

/-- Wire types stand for the types of fields, under the same names in the same order. -/
inductive AttributeType.FieldsCarriedBy :
    List (String × AttributeType) → List (String × Wire.ValueType) → Prop
  | nil : FieldsCarriedBy [] []
  | cons (name : String) {type : AttributeType} {wire : Wire.ValueType}
      {fields : List (String × AttributeType)} {wires : List (String × Wire.ValueType)}
      (h : AttributeType.CarriedBy type wire) (hrest : FieldsCarriedBy fields wires) :
      FieldsCarriedBy ((name, type) :: fields) ((name, wire) :: wires)

end

namespace AttributeType

mutual

/-- The wire type of a type stands for it. -/
theorem carriedBy_toWire : (type : AttributeType) → type.CarriedBy type.toWire
  | string => .string
  | number => .number
  | int64 => .int64
  | float64 => .float64
  | bool => .bool
  | dynamic => .dynamic
  | list element => .list (carriedBy_toWire element)
  | set element => .set (carriedBy_toWire element)
  | map element => .map (carriedBy_toWire element)
  | object fields => .object (fieldsCarriedBy_toWire fields)

theorem fieldsCarriedBy_toWire :
    (fields : List (String × AttributeType)) → FieldsCarriedBy fields (fieldsToWire fields)
  | [] => .nil
  | (name, type) :: rest => .cons name (carriedBy_toWire type) (fieldsCarriedBy_toWire rest)

end

mutual

/-- No other wire type stands for a type. -/
theorem CarriedBy.eq_toWire {type : AttributeType} {wire : Wire.ValueType} :
    type.CarriedBy wire → wire = type.toWire
  | .string | .number | .int64 | .float64 | .bool | .dynamic => rfl
  | .list h | .set h | .map h => by rw [toWire, h.eq_toWire]
  | .object h => by rw [toWire, h.eq_fieldsToWire]

theorem FieldsCarriedBy.eq_fieldsToWire {fields : List (String × AttributeType)}
    {wires : List (String × Wire.ValueType)} :
    FieldsCarriedBy fields wires → wires = fieldsToWire fields
  | .nil => rfl
  | .cons name h hrest => by rw [fieldsToWire, h.eq_toWire, hrest.eq_fieldsToWire]

end

end AttributeType

/-- A text is given if it is present and not empty. -/
def Given (text : Option String) : Prop := ∃ value, text = some value ∧ value ≠ ""

/-- A text stays under the filter for texts that are not empty just if it is given. -/
theorem filter_eq_some_iff {text : Option String} {value : String} :
    text.filter (· ≠ "") = some value ↔ text = some value ∧ value ≠ "" := by
  simp [Option.filter_eq_some_iff]

theorem filter_eq_none_iff {text : Option String} :
    text.filter (· ≠ "") = none ↔ ¬Given text := by
  cases text <;> simp [Given]

/-- A description stands for the texts of an author: the markdown if it is given, else the plain
text if it is given, else nothing. -/
inductive Documentation.DescribedBy (texts : Documentation) : Wire.Description → Prop
  | markdown {text : String} (h : texts.markdown = some text) (hne : text ≠ "") :
      DescribedBy texts ⟨text, some .markdown⟩
  | plain {text : String} (hmarkdown : ¬Given texts.markdown)
      (h : texts.description = some text) (hne : text ≠ "") : DescribedBy texts ⟨text, some .plain⟩
  | nothing (hmarkdown : ¬Given texts.markdown) (hplain : ¬Given texts.description) :
      DescribedBy texts ⟨"", none⟩

/-- A description that stands for texts has a format exactly if it has a text. -/
theorem Documentation.DescribedBy.kind_eq_none_iff {texts : Documentation}
    {description : Wire.Description} (h : texts.DescribedBy description) :
    description.kind = none ↔ description.text = "" := by
  cases h with
  | markdown h hne => simp [hne]
  | plain hmarkdown h hne => simp [hne]
  | nothing => simp

/-- The description that is sent stands for the texts. -/
theorem Documentation.describedBy_toWire (texts : Documentation) :
    texts.DescribedBy texts.toWire := by
  unfold toWire resolve
  cases hmarkdown : texts.markdown.filter (· ≠ "") with
  | some text =>
    obtain ⟨h, hne⟩ := filter_eq_some_iff.mp hmarkdown
    exact .markdown h hne
  | none =>
    cases hplain : texts.description.filter (· ≠ "") with
    | some text =>
      obtain ⟨h, hne⟩ := filter_eq_some_iff.mp hplain
      exact .plain (filter_eq_none_iff.mp hmarkdown) h hne
    | none => exact .nothing (filter_eq_none_iff.mp hmarkdown) (filter_eq_none_iff.mp hplain)

/-- No two descriptions stand for the same texts. -/
theorem Documentation.DescribedBy.unique {texts : Documentation}
    {description other : Wire.Description} (h : texts.DescribedBy description)
    (hother : texts.DescribedBy other) : description = other := by
  cases h with
  | markdown h hne =>
    cases hother with
    | markdown h' => rw [Option.some.inj (h.symm.trans h')]
    | plain hmarkdown => exact absurd ⟨_, h, hne⟩ hmarkdown
    | nothing hmarkdown => exact absurd ⟨_, h, hne⟩ hmarkdown
  | plain hmarkdown h hne =>
    cases hother with
    | markdown h' hne' => exact absurd ⟨_, h', hne'⟩ hmarkdown
    | plain _ h' => rw [Option.some.inj (h.symm.trans h')]
    | nothing _ hplain => exact absurd ⟨_, h, hne⟩ hplain
  | nothing hmarkdown hplain =>
    cases hother with
    | markdown h hne => exact absurd ⟨_, h, hne⟩ hmarkdown
    | plain _ h hne => exact absurd ⟨_, h, hne⟩ hplain
    | nothing => rfl

/-- Only a given message deprecates. -/
theorem Documentation.isDeprecated_iff (texts : Documentation) :
    texts.isDeprecated = true ↔ Given texts.deprecation := by
  rw [isDeprecated, Option.isSome_iff_ne_none, ne_eq, filter_eq_none_iff, not_not]

/-- An object stands for a group whose attributes have records already: it lists a record for
each name of the group, in the same order. -/
structure Group.CarriedBy (group : Group Attribute) (object : Wire.Object Wire.Attribute) :
    Prop where
  nesting : object.nesting = group.mode
  names : object.attributes.map Wire.Attribute.name = group.attributes.map Prod.fst
  bounded : group.mode = .list ∨ group.mode = .set →
    object.minItems.toInt = min (group.minItems.toNat : Int) (2 ^ 63 - 1) ∧
      object.maxItems.toInt = min (group.maxItems.toNat : Int) (2 ^ 63 - 1)
  unbounded : group.mode = .single ∨ group.mode = .map →
    object.minItems.toInt = 0 ∧ object.maxItems.toInt = 0

/-- The object of a group stands for it. -/
theorem Group.carriedBy_toWire {group : Group Attribute} {nested : List Wire.Attribute}
    (h : nested.map Wire.Attribute.name = group.attributes.map Prod.fst) :
    group.CarriedBy (group.toWire nested) where
  nesting := rfl
  names := h
  bounded hmode := by
    rcases hmode with hmode | hmode <;> simp only [toWire, bound, hmode, toInt_saturated, and_self]
  unbounded hmode := by
    rcases hmode with hmode | hmode <;> simp only [toWire, bound, hmode] <;> decide

/-- Two objects that stand for one group differ in their records only. -/
theorem Group.CarriedBy.unique {group : Group Attribute} {object other : Wire.Object Wire.Attribute}
    (h : group.CarriedBy object) (hother : group.CarriedBy other)
    (hattributes : object.attributes = other.attributes) : object = other := by
  have hbounds : object.minItems.toInt = other.minItems.toInt ∧
      object.maxItems.toInt = other.maxItems.toInt := by
    have hbounded := h.bounded
    have hbounded' := hother.bounded
    have hunbounded := h.unbounded
    have hunbounded' := hother.unbounded
    cases hmode : group.mode <;> simp_all
  rw [Int64.toInt_inj, Int64.toInt_inj] at hbounds
  have hnesting := h.nesting.trans hother.nesting.symm
  rcases object with ⟨attributes, nesting, low, high⟩
  rcases other with ⟨attributes', nesting', low', high'⟩
  simp_all

/-- A record under a name stands for an attribute, as far as one record goes. -/
structure Attribute.CarriedBy (name : String) (a : Attribute) (record : Wire.Attribute) :
    Prop where
  name : record.name = name
  flags : record.flags = a.flags
  type : Option.Rel AttributeType.CarriedBy a.type? record.type?
  group : Option.Rel Group.CarriedBy a.group? record.nested
  description : a.documentation.DescribedBy record.description
  deprecated : record.deprecated = true ↔ Given a.documentation.deprecation

/-- Two records that stand for one attribute differ in the records nested in them only. -/
theorem Attribute.CarriedBy.unique {name : String} {a : Attribute} {record other : Wire.Attribute}
    (h : a.CarriedBy name record) (hother : a.CarriedBy name other)
    (hchildren : record.children = other.children) : record = other := by
  rcases record with ⟨_, type, nested, description, _, deprecated⟩
  rcases other with ⟨_, type', nested', description', _, deprecated'⟩
  obtain ⟨rfl, rfl, htype, hgroup, hdescription, hdeprecated⟩ := h
  obtain ⟨rfl, rfl, htype', hgroup', hdescription', hdeprecated'⟩ := hother
  generalize a.type? = authored at htype htype'
  generalize a.group? = group at hgroup hgroup'
  obtain rfl : type = type' := by
    cases htype with
    | none => cases htype'; rfl
    | some h =>
      cases htype' with
      | some h' => rw [h.eq_toWire, h'.eq_toWire]
  obtain rfl : nested = nested' := by
    cases hgroup with
    | none => cases hgroup'; rfl
    | some h =>
      cases hgroup' with
      | some h' => rw [h.unique h' hchildren]
  obtain rfl : deprecated = deprecated' := Bool.eq_iff_iff.mpr (hdeprecated.trans hdeprecated'.symm)
  obtain rfl : description = description' := hdescription.unique hdescription'
  rfl

/-- The record of an attribute stands for it, if the nested records have the children's names. -/
theorem Attribute.carriedBy_record {name : String} {a : Attribute} {nested : List Wire.Attribute}
    (h : nested.map Wire.Attribute.name = a.children.map Prod.fst) :
    a.CarriedBy name (a.record name nested) where
  name := rfl
  flags := rfl
  type := by
    unfold record
    cases a.type? with
    | none => exact .none
    | some type => exact .some type.carriedBy_toWire
  group := by
    unfold children at h
    unfold record
    cases hgroup : a.group? with
    | none => exact .none
    | some group => exact .some (Group.carriedBy_toWire (by simpa [hgroup] using h))
  description := a.documentation.describedBy_toWire
  deprecated := a.documentation.isDeprecated_iff

end PluginSchema
