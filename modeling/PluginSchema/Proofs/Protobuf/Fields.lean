import PluginSchema.Protobuf.Field

/-!
# Written fields

What is written for a message is a sequence of fields, each behind its key. The bytes of a field
show where it ends, so the bytes of a message show all its fields. A message has a layout: for
each number, in ascending order, the payloads that are written under it. The fields of two
messages with the same numbers show both layouts.
-/

namespace PluginSchema.Protobuf

theorem varint_of_lt {n : Nat} (h : n < 128) : varint n = [UInt8.ofNat n] := by
  rw [varint, if_pos h]

theorem varint_of_not_lt {n : Nat} (h : ¬n < 128) :
    varint n = UInt8.ofNat (n % 128 + 128) :: varint (n / 128) := by
  rw [varint, if_neg h]

theorem varint_ne_nil (n : Nat) : varint n ≠ [] := by
  by_cases h : n < 128
  · simp [varint_of_lt h]
  · simp [varint_of_not_lt h]

/-- Numbers below 256 are told apart by their bytes. -/
theorem ofNat_inj_of_lt {m n : Nat} (hm : m < 256) (hn : n < 256)
    (h : UInt8.ofNat m = UInt8.ofNat n) : m = n := by
  have hmod := congrArg UInt8.toNat h
  rw [UInt8.toNat_ofNat', UInt8.toNat_ofNat'] at hmod
  omega

/-- The bytes of a number show where it ends. -/
theorem varint_append_inj {m n : Nat} {rest rest' : Bytes}
    (h : varint m ++ rest = varint n ++ rest') : m = n ∧ rest = rest' := by
  induction m using varint.induct generalizing n with
  | case1 m hm =>
    rw [varint_of_lt hm] at h
    by_cases hn : n < 128
    · rw [varint_of_lt hn] at h
      obtain ⟨hbyte, hrest⟩ := List.cons.inj h
      exact ⟨ofNat_inj_of_lt (by omega) (by omega) hbyte, hrest⟩
    · rw [varint_of_not_lt hn] at h
      have hbyte := ofNat_inj_of_lt (by omega) (by omega) (List.cons.inj h).1
      omega
  | case2 m hm ih =>
    rw [varint_of_not_lt hm] at h
    by_cases hn : n < 128
    · rw [varint_of_lt hn] at h
      have hbyte := ofNat_inj_of_lt (by omega) (by omega) (List.cons.inj h).1
      omega
    · rw [varint_of_not_lt hn] at h
      obtain ⟨hbyte, hrest⟩ := List.cons.inj h
      have hlow := ofNat_inj_of_lt (by omega) (by omega) hbyte
      obtain ⟨hhigh, hrest⟩ := ih hrest
      exact ⟨by omega, hrest⟩

/-- The bytes of a key show its number, its wire type and where it ends. -/
theorem key_append_inj {number other type type' : Nat} (htype : type < 8) (htype' : type' < 8)
    {rest rest' : Bytes} (h : key number type ++ rest = key other type' ++ rest') :
    number = other ∧ type = type' ∧ rest = rest' := by
  obtain ⟨hkey, hrest⟩ := varint_append_inj h
  exact ⟨by omega, by omega, hrest⟩

/-- Numbers and bytes are written, and nothing else. -/
def Payload.Written : Payload → Prop
  | varint _ | bytes _ => True
  | fixed | group => False

namespace WireField

/-- The bytes of a field. Fixed numbers and groups are never written. -/
def write (field : WireField) : Bytes :=
  match field.payload with
  | .varint value => key field.number 0 ++ varint value
  | .bytes value => delimitedField field.number value
  | .fixed | .group => []

/-- The bytes of fields. -/
def writeAll (fields : List WireField) : Bytes := fields.flatMap write

/-- The bytes of a field show what it holds and where it ends. -/
theorem write_append_inj {field other : WireField} (hfield : field.payload.Written)
    (hother : other.payload.Written) {rest rest' : Bytes}
    (h : field.write ++ rest = other.write ++ rest') : field = other ∧ rest = rest' := by
  rcases field with ⟨number, value | value | _ | _⟩ <;>
    rcases other with ⟨number', value' | value' | _ | _⟩ <;> try contradiction
  all_goals
    simp only [write, delimitedField, List.append_assoc] at h
    obtain ⟨rfl, htype, hpayload⟩ := key_append_inj (by decide) (by decide) h
  case varint.varint =>
    obtain ⟨rfl, hrest⟩ := varint_append_inj hpayload
    exact ⟨rfl, hrest⟩
  case bytes.bytes =>
    obtain ⟨hlength, hbytes⟩ := varint_append_inj hpayload
    obtain ⟨rfl, hrest⟩ := List.append_inj hbytes hlength
    exact ⟨rfl, hrest⟩
  -- a number is not written as bytes are
  all_goals cases htype

/-- A field has bytes. -/
theorem write_ne_nil {field : WireField} (h : field.payload.Written) : field.write ≠ [] := by
  rcases field with ⟨number, value | value | _ | _⟩ <;> try contradiction
  all_goals simp [write, delimitedField, key, varint_ne_nil]

theorem writeAll_cons (field : WireField) (fields : List WireField) :
    writeAll (field :: fields) = field.write ++ writeAll fields := List.flatMap_cons

/-- The bytes of fields show the fields. -/
theorem writeAll_inj {fields others : List WireField}
    (hfields : ∀ field ∈ fields, field.payload.Written)
    (hothers : ∀ field ∈ others, field.payload.Written) (h : writeAll fields = writeAll others) :
    fields = others := by
  induction fields generalizing others with
  | nil =>
    cases others with
    | nil => rfl
    | cons other others =>
      rw [writeAll_cons] at h
      exact absurd (List.append_eq_nil_iff.mp h.symm).1 (write_ne_nil (hothers other (.head _)))
  | cons field fields ih =>
    obtain ⟨hfield, hfields⟩ := List.forall_mem_cons.mp hfields
    cases others with
    | nil =>
      rw [writeAll_cons] at h
      exact absurd (List.append_eq_nil_iff.mp h).1 (write_ne_nil hfield)
    | cons other others =>
      obtain ⟨hother, hothers'⟩ := List.forall_mem_cons.mp hothers
      rw [writeAll_cons, writeAll_cons] at h
      obtain ⟨rfl, hrest⟩ := write_append_inj hfield hother h
      rw [ih hfields hothers' hrest]

end WireField

/-- The payloads of a message under each number. -/
abbrev Layout := List (Nat × List Payload)

namespace Layout

/-- The fields of a message, number by number. -/
def fields (layout : Layout) : List WireField :=
  layout.flatMap fun part => part.2.map (WireField.mk part.1)

/-- The bytes of a message. -/
def write (layout : Layout) : Bytes := WireField.writeAll layout.fields

theorem fields_cons (number : Nat) (payloads : List Payload) (rest : Layout) :
    fields ((number, payloads) :: rest) = payloads.map (WireField.mk number) ++ rest.fields :=
  List.flatMap_cons

/-- A layout has a part for each of some numbers, and all that is in it is written. -/
inductive Fills : List Nat → Layout → Prop
  | nil : Fills [] []
  | cons {number : Nat} {payloads : List Payload} {numbers : List Nat} {rest : Layout}
      (h : ∀ payload ∈ payloads, payload.Written) (hrest : Fills numbers rest) :
      Fills (number :: numbers) ((number, payloads) :: rest)

variable {numbers : List Nat} {layout other : Layout}

/-- A field of a layout has one of its numbers. -/
theorem Fills.number_mem (h : Fills numbers layout) {field : WireField}
    (hfield : field ∈ layout.fields) : field.number ∈ numbers := by
  induction h with
  | nil => cases hfield
  | cons _ _ ih =>
    rw [fields_cons, List.mem_append, List.mem_map] at hfield
    obtain ⟨_, -, rfl⟩ | hrest := hfield
    · exact .head _
    · exact .tail _ (ih hrest)

/-- A field of a layout is written. -/
theorem Fills.written (h : Fills numbers layout) :
    ∀ field ∈ layout.fields, field.payload.Written := by
  induction h with
  | nil => intro field hfield; cases hfield
  | cons hfirst _ ih =>
    intro field hfield
    rw [fields_cons, List.mem_append, List.mem_map] at hfield
    obtain ⟨payload, hpayload, rfl⟩ | hrest := hfield
    · exact hfirst payload hpayload
    · exact ih field hrest

/-- The fields of the first number are those with the number. -/
theorem Fills.filter_fields_cons {number : Nat} {rest : Layout} (h : Fills numbers rest)
    (hnumber : number ∉ numbers) (payloads : List Payload) :
    (fields ((number, payloads) :: rest)).filter (·.number = number) =
      payloads.map (WireField.mk number) := by
  have hfirst : (payloads.map (WireField.mk number)).filter (·.number = number) =
      payloads.map (WireField.mk number) := by
    simp
  have hrest : rest.fields.filter (·.number = number) = [] := by
    rw [List.filter_eq_nil_iff]
    intro field hfield heq
    exact hnumber (of_decide_eq_true heq ▸ h.number_mem hfield)
  rw [fields_cons, List.filter_append, hfirst, hrest, List.append_nil]

/-- Layouts of the same numbers, each of them once, are the same if their fields are. -/
theorem Fills.eq_of_fields_eq (hlayout : Fills numbers layout) (hother : Fills numbers other)
    (hnumbers : numbers.Nodup) (h : layout.fields = other.fields) : layout = other := by
  induction hlayout generalizing other with
  | nil => cases hother; rfl
  | @cons number payloads _ _ _ hrest ih =>
    cases hother with
    | @cons _ payloads' _ _ _ hrest' =>
      obtain ⟨hnumber, hnodup⟩ := List.nodup_cons.mp hnumbers
      have hfirst := congrArg (List.filter (·.number = number)) h
      rw [hrest.filter_fields_cons hnumber, hrest'.filter_fields_cons hnumber] at hfirst
      obtain rfl : payloads = payloads' :=
        List.map_inj_right (fun _ _ heq => (WireField.mk.inj heq).2) |>.mp hfirst
      rw [fields_cons, fields_cons, List.append_cancel_left_eq] at h
      rw [ih hrest' hnodup h]

/-- Layouts of the same numbers, each of them once, are the same if their bytes are. -/
theorem Fills.eq_of_write_eq (hlayout : Fills numbers layout) (hother : Fills numbers other)
    (hnumbers : numbers.Nodup) (h : layout.write = other.write) : layout = other :=
  hlayout.eq_of_fields_eq hother hnumbers
    (WireField.writeAll_inj hlayout.written hother.written h)

end Layout

end PluginSchema.Protobuf
