import Mathlib.Algebra.Group.Int.Defs
import PluginSchema.Conversion.Attribute
import PluginSchema.Proofs.Conversion.Sequence
import PluginSchema.Proofs.Ordered

/-!
# The result of a conversion

What a conversion yields, without the events on the way. An attribute converts if it has no
fault of its own and its children convert; its record is then put together from its own parts and
the records of the children. A list converts entry by entry up to the first error.
-/

namespace PluginSchema

/-- A number on the wire is the author's number, cut off at the greatest one. -/
theorem toInt_saturated (n : UInt64) :
    (saturated n).toInt = min (n.toNat : Int) (2 ^ 63 - 1) := by
  have hpow : Nat.pow 2 63 = 9223372036854775808 := rfl
  rw [saturated, hpow, Int64.toInt_ofNat_of_lt (by omega)]
  omega

namespace Path

/-- The path of what further names lead to. -/
def extend (path : Path) (steps : List String) : Path := ⟨path.steps ++ steps⟩

@[simp] theorem extend_nil (path : Path) : path.extend [] = path := by
  simp [extend]

@[simp] theorem child_extend (path : Path) (name : String) (steps : List String) :
    (path.child name).extend steps = path.extend (name :: steps) := by
  simp [extend, child]

end Path

namespace Attribute

open Conversion (Run)

variable {capabilities : Capabilities} {name : String} {path : Path} {a : Attribute}

/-- The fault of an attribute taken by itself, for a protocol version: a group that the version
cannot carry, then neither type nor group, then both, then nobody who sets the attribute, then
required and optional at once. -/
def fault? (capabilities : Capabilities) (path : Path) (a : Attribute) : Option SchemaError :=
  if a.group?.isSome ∧ ¬capabilities.nestedAttributes then
    some (.unsupportedNesting path capabilities.version)
  else if a.type?.isNone ∧ a.group?.isNone then some (.missingType path)
  else if a.type?.isSome ∧ a.group?.isSome then some (.conflictingType path)
  else if ¬a.flags.required ∧ ¬a.flags.optional ∧ ¬a.flags.computed then
    some (.missingConstraint path)
  else if a.flags.required ∧ a.flags.optional then some (.conflictingConstraint path)
  else none

/-- The check refuses an attribute for its fault and accepts one without. -/
theorem check_eq (capabilities : Capabilities) (path : Path) (a : Attribute) :
    a.check capabilities path =
      match a.fault? capabilities path with
      | some error => .error error
      | none => .ok () := by
  rcases a with ⟨type, nested, ⟨required, optional, computed, sensitive⟩, texts⟩
  unfold check fault? validate
  cases type <;> cases group? _ <;> cases capabilities.nestedAttributes <;> cases required <;>
    cases optional <;> cases computed <;> rfl

/-- The record of an attribute whose nested attributes have records already. -/
def record (name : String) (a : Attribute) (nested : List Wire.Attribute) : Wire.Attribute where
  name
  type? := a.type?.map AttributeType.toWire
  nested := a.group?.map fun group => group.toWire nested
  description := a.documentation.toWire
  flags := a.flags
  deprecated := a.documentation.isDeprecated

/-- An attribute without a fault has a type or a group, and not both. -/
theorem isSome_type?_of_fault? (h : a.fault? capabilities path = none) :
    a.type?.isSome = a.group?.isNone := by
  unfold fault? at h
  cases htype : a.type? <;> cases hgroup : a.group? <;> simp_all
  split at h <;> cases h

/-- An announcement ends as the check does. -/
theorem announce_result (capabilities : Capabilities) (name : String) (path : Path)
    (a : Attribute) :
    (a.announce capabilities name path).result = a.check capabilities path := by
  unfold announce
  cases a.check capabilities path <;> rfl

/-- An announcement succeeds just for an attribute without a fault. -/
theorem announce_eq_ok_iff {done : Unit} :
    (a.announce capabilities name path).result = .ok done ↔ a.fault? capabilities path = none := by
  rw [announce_result, check_eq]
  cases a.fault? capabilities path <;> simp

/-- The error of an announcement is the fault of the attribute. -/
theorem announce_error? (capabilities : Capabilities) (name : String) (path : Path)
    (a : Attribute) : (a.announce capabilities name path).error? = a.fault? capabilities path := by
  unfold Run.error?
  rw [announce_result, check_eq]
  cases a.fault? capabilities path <;> rfl

/-- A conversion announces the attribute, converts the children and puts the record together. -/
theorem convert_eq (capabilities : Capabilities) (name : String) (path : Path) (a : Attribute) :
    a.convert capabilities name path = (do
      a.announce capabilities name path
      let nested ← convertAll capabilities path a.children
      pure (a.record name nested)) := by
  have hone (hcheck : (a.announce capabilities name path).result = .ok ()) :
      a.type?.isSome = a.group?.isNone :=
    isSome_type?_of_fault? (announce_eq_ok_iff.mp hcheck)
  rcases a with ⟨_ | type, _ | ⟨mode, _ | ⟨first, rest⟩, low, high⟩, flags, texts⟩ <;>
    rw [convert] <;> refine Run.bind_congr_of_ok fun _ hcheck => ?_
  -- neither a type nor a group
  · cases hone hcheck
  · cases hone hcheck
  -- a group
  · rfl
  -- a type
  · rfl
  · rfl
  -- both
  · cases hone hcheck

/-- An attribute converts to a record just if it has no fault, its children convert, and the
record is put together from theirs. -/
theorem convert_eq_ok_iff {record : Wire.Attribute} :
    (a.convert capabilities name path).result = .ok record ↔
      a.fault? capabilities path = none ∧
        ∃ nested, (convertAll capabilities path a.children).result = .ok nested ∧
          a.record name nested = record := by
  simp only [convert_eq, Run.result_bind_eq_ok_iff, announce_eq_ok_iff, exists_const,
    Run.result_pure, Except.ok.injEq]

/-- The error of a conversion is the attribute's own fault, or else the error of its children. -/
theorem convert_error? (capabilities : Capabilities) (name : String) (path : Path)
    (a : Attribute) :
    (a.convert capabilities name path).error? =
      (a.fault? capabilities path).or (convertAll capabilities path a.children).error? := by
  rw [convert_eq, Run.error?_bind fun _ _ => Run.error?_bind_pure _ _, announce_error?]

/-- A list of attributes is converted by one run for each entry. -/
theorem convertAll_eq_mapM (capabilities : Capabilities) (path : Path)
    (entries : List (String × Attribute)) :
    convertAll capabilities path entries = entries.mapM fun entry =>
      entry.2.convert capabilities entry.1 (path.child entry.1) := by
  induction entries with
  | nil => rfl
  | cons entry rest ih => rw [convertAll, ih, List.mapM_cons]

/-- A list of attributes converts to a list of records just if it does so entry by entry. -/
theorem convertAll_eq_ok_iff {entries : List (String × Attribute)}
    {records : List Wire.Attribute} :
    (convertAll capabilities path entries).result = .ok records ↔
      List.Forall₂ (fun entry record =>
        (entry.2.convert capabilities entry.1 (path.child entry.1)).result = .ok record)
        entries records := by
  rw [convertAll_eq_mapM, Run.mapM_eq_ok_iff]

/-- A record has the name under which its attribute is converted. -/
theorem convert_name {record : Wire.Attribute}
    (h : (a.convert capabilities name path).result = .ok record) :
    record.name = name := by
  obtain ⟨-, nested, -, rfl⟩ := convert_eq_ok_iff.mp h
  rfl

/-- The records of a list have the names of its entries, in the same order. -/
theorem convertAll_names {entries : List (String × Attribute)} {records : List Wire.Attribute}
    (h : (convertAll capabilities path entries).result = .ok records) :
    records.map Wire.Attribute.name = entries.map Prod.fst := by
  rw [convertAll_eq_ok_iff] at h
  induction h with
  | nil => rfl
  | cons hfirst _ ih => rw [List.map_cons, List.map_cons, convert_name hfirst, ih]

/-- The error of a list of attributes is that of the first entry with an error. -/
theorem convertAll_error? (capabilities : Capabilities) (path : Path)
    (entries : List (String × Attribute)) :
    (convertAll capabilities path entries).error? =
      entries.findSome? fun entry =>
        (entry.2.convert capabilities entry.1 (path.child entry.1)).error? := by
  rw [convertAll_eq_mapM, Run.mapM_error?]

end Attribute

end PluginSchema
