import PluginSchema.NameMap

/-!
# Types of attribute values

What a schema's author may say of the values of an attribute. Three of the types are numbers
that the protocol does not tell apart.
-/

namespace PluginSchema

/-- The type of an attribute's values. -/
inductive AttributeType where
  | string
  | number
  | int64
  | float64
  | bool
  | list (element : AttributeType)
  | set (element : AttributeType)
  | map (element : AttributeType)
  | object (fields : List (String × AttributeType))
  | dynamic

namespace AttributeType

/-- An object type from fields in any order; the last type given for a name stands. -/
def ofFields (fields : List (String × AttributeType)) : AttributeType :=
  object (NameMap.ofList fields)

mutual

/-- Whether two types are one type. -/
def same : AttributeType → AttributeType → Bool
  | string, string => true
  | number, number => true
  | int64, int64 => true
  | float64, float64 => true
  | bool, bool => true
  | list a, list b => a.same b
  | set a, set b => a.same b
  | map a, map b => a.same b
  | object a, object b => sameFields a b
  | dynamic, dynamic => true
  | _, _ => false

/-- Whether two lists of fields agree in names, types and order. -/
def sameFields : NameMap AttributeType → NameMap AttributeType → Bool
  | [], [] => true
  | (m, a) :: as, (n, b) :: bs => m == n && a.same b && sameFields as bs
  | _, _ => false

end

mutual

theorem eq_of_same : (a b : AttributeType) → a.same b = true → a = b
  | string, b, h => by cases b <;> simp_all [same]
  | number, b, h => by cases b <;> simp_all [same]
  | int64, b, h => by cases b <;> simp_all [same]
  | float64, b, h => by cases b <;> simp_all [same]
  | bool, b, h => by cases b <;> simp_all [same]
  | dynamic, b, h => by cases b <;> simp_all [same]
  | list a, b, h => by
    cases b <;> simp only [same, Bool.false_eq_true] at h
    rw [eq_of_same a _ h]
  | set a, b, h => by
    cases b <;> simp only [same, Bool.false_eq_true] at h
    rw [eq_of_same a _ h]
  | map a, b, h => by
    cases b <;> simp only [same, Bool.false_eq_true] at h
    rw [eq_of_same a _ h]
  | object a, b, h => by
    cases b <;> simp only [same, Bool.false_eq_true] at h
    rw [eq_of_sameFields a _ h]

theorem eq_of_sameFields : (as bs : NameMap AttributeType) → sameFields as bs = true → as = bs
  | [], [], _ => rfl
  | [], _ :: _, h => by simp [sameFields] at h
  | _ :: _, [], h => by simp [sameFields] at h
  | (m, a) :: as, (n, b) :: bs, h => by
    simp only [sameFields, Bool.and_eq_true, beq_iff_eq] at h
    rw [h.1.1, eq_of_same a b h.1.2, eq_of_sameFields as bs h.2]

end

mutual

theorem same_self : (a : AttributeType) → a.same a = true
  | string | number | int64 | float64 | bool | dynamic => rfl
  | list a => by simp [same, same_self a]
  | set a => by simp [same, same_self a]
  | map a => by simp [same, same_self a]
  | object a => by simp [same, sameFields_self a]

theorem sameFields_self : (as : NameMap AttributeType) → sameFields as as = true
  | [] => rfl
  | (_, a) :: as => by simp [sameFields, same_self a, sameFields_self as]

end

/-- The comparison decides equality. -/
theorem same_iff {a b : AttributeType} : a.same b = true ↔ a = b :=
  ⟨eq_of_same a b, fun h => h ▸ same_self a⟩

instance : DecidableEq AttributeType := fun _ _ => decidable_of_iff _ same_iff

end AttributeType

end PluginSchema
