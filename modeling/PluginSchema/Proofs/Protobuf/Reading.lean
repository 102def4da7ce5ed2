import Mathlib.Algebra.Group.Nat.Defs
import PluginSchema.Proofs.Protobuf.Layout

/-!
# Reading written fields

A reader finds in the bytes of fields just the fields that were written, if their numbers are ones
that a key can hold and no inner part is longer than a length can say. It takes the fields in one
after the other, so the bytes of a layout are read part by part, and a part that was left out
leaves the default value in its place.
-/

namespace PluginSchema.Protobuf

/-- A written number is read back, if it is below the limit that the budget of bytes sets. -/
theorem readVarintWithin_varint {n budget : Nat} (h : n < 2 * 128 ^ budget) (rest : Bytes) :
    readVarintWithin (budget + 1) (varint n ++ rest) = some (n, rest) := by
  induction n using varint.induct generalizing budget with
  | case1 n hn =>
    have hbyte : (UInt8.ofNat n).toNat = n := by
      rw [UInt8.toNat_ofNat']
      omega
    have hlast : ¬(budget = 0 ∧ 1 < UInt8.ofNat n) := by
      rintro ⟨rfl, hbig⟩
      have hbig : 1 < n := by simpa [UInt8.lt_iff_toNat_lt, hbyte] using hbig
      omega
    have hsmall : UInt8.ofNat n < 128 := by
      simpa [UInt8.lt_iff_toNat_lt, hbyte] using hn
    rw [varint_of_lt hn, List.singleton_append, readVarintWithin, if_pos hsmall, if_neg hlast,
      hbyte]
  | case2 n hn ih =>
    have hbyte : (UInt8.ofNat (n % 128 + 128)).toNat = n % 128 + 128 := by
      rw [UInt8.toNat_ofNat']
      omega
    have hlarge : ¬UInt8.ofNat (n % 128 + 128) < 128 := by
      rw [UInt8.lt_iff_toNat_lt, hbyte]
      exact Nat.not_lt.mpr (Nat.le_add_left _ _)
    -- a number with a second byte does not fit a budget of one
    obtain ⟨budget, rfl⟩ : ∃ smaller, budget = smaller + 1 := by
      cases budget with
      | zero => omega
      | succ smaller => exact ⟨smaller, rfl⟩
    have hhigh : n / 128 < 2 * 128 ^ budget := by
      rw [Nat.pow_succ] at h
      omega
    rw [varint_of_not_lt hn, List.cons_append, readVarintWithin, if_neg hlarge, ih hhigh]
    simp only [hbyte, Option.bind_eq_bind, Option.bind_some, Option.pure_def, Option.some.injEq,
      Prod.mk.injEq, and_true]
    omega

/-- A written number of 64 bits is read back. -/
theorem readVarint_varint {n : Nat} (h : n < UInt64.size) (rest : Bytes) :
    readVarint (varint n ++ rest) = some (n, rest) :=
  readVarintWithin_varint h rest

/-- As many bytes are split off as there are in front. -/
theorem splitExactly_append (value rest : Bytes) :
    splitExactly value.length (value ++ rest) = some (value, rest) := by
  induction value with
  | nil => rfl
  | cons byte value ih =>
    rw [List.length_cons, List.cons_append, splitExactly, ih]
    rfl

/-- Bytes behind their number are read back, if the number is one of 64 bits. -/
theorem readDelimited_append {value : Bytes} (h : value.length < UInt64.size) (rest : Bytes) :
    readDelimited (varint value.length ++ value ++ rest) = some (value, rest) := by
  rw [readDelimited, List.append_assoc, readVarint_varint h, Option.bind_eq_bind, Option.bind_some]
  exact splitExactly_append value rest

/-- The key of a field is read back, if the number fits a key and the wire type is known. -/
theorem readKey_key {number type : Nat} (hpos : 0 < number) (hnumber : number < 2 ^ 29)
    (htype : type < 6) (rest : Bytes) :
    readKey (key number type ++ rest) = some (number, type, rest) := by
  have hsize : number * 8 + type < UInt64.size := by
    rw [UInt64.size]
    omega
  have hkey : number * 8 + type < UInt32.size ∧ 8 ≤ number * 8 + type ∧
      (number * 8 + type) % 8 < 6 := by
    rw [UInt32.size]
    omega
  have hparts : (number * 8 + type) / 8 = number ∧ (number * 8 + type) % 8 = type := by omega
  rw [readKey, key, readVarint_varint hsize, Option.bind_eq_bind, Option.bind_some]
  dsimp only
  rw [if_pos hkey, hparts.1, hparts.2]

/-- A number of 64 bits, or bytes whose number is one. -/
def Payload.Readable : Payload → Prop
  | varint value => value < UInt64.size
  | bytes value => value.length < UInt64.size
  | fixed | group => False

namespace WireField

/-- A field whose key and payload a reader takes as they were written. Where the field is a map it
holds bytes. -/
structure Readable (isMap : Nat → Bool) (field : WireField) : Prop where
  number_pos : 0 < field.number
  number_lt : field.number < 2 ^ 29
  payload : field.payload.Readable
  bytes : isMap field.number = true → ∃ value, field.payload = .bytes value

variable {isMap : Nat → Bool} {room : Nat}

/-- A written field is read back. -/
theorem readField_write {field : WireField} (h : field.Readable isMap) (room : Nat) (rest : Bytes) :
    readField isMap room (field.write ++ rest) = some (field, rest) := by
  obtain ⟨hpos, hlt, hpayload, hmap⟩ := h
  rcases field with ⟨number, value | value | _ | _⟩
  case varint =>
    have hplain : isMap number = false := by
      refine Bool.eq_false_iff.mpr fun hisMap => ?_
      obtain ⟨bytes, hbytes⟩ := hmap hisMap
      cases hbytes
    simp only [write, List.append_assoc]
    rw [readField, readKey_key hpos hlt (by decide), Option.bind_eq_bind, Option.bind_some]
    simp only [hplain, Bool.false_eq_true, if_false, readPayload, readVarint_varint hpayload]
    rfl
  case bytes =>
    have hread := readDelimited_append hpayload rest
    rw [List.append_assoc] at hread
    simp only [write, delimitedField, List.append_assoc]
    rw [readField, readKey_key hpos hlt (by decide), Option.bind_eq_bind, Option.bind_some]
    by_cases hisMap : isMap number = true
    · simp only [if_pos hisMap, hread]
      rfl
    · simp only [if_neg hisMap, readPayload, hread]
      rfl
  case fixed => exact hpayload.elim
  case group => exact hpayload.elim

/-- Written fields are read back in as many steps as there are fields. -/
theorem readFieldsWithin_writeAll {fields : List WireField}
    (h : ∀ field ∈ fields, field.Readable isMap) {fuel : Nat} (hfuel : fields.length ≤ fuel) :
    readFieldsWithin isMap room fuel (writeAll fields) = some fields := by
  induction fields generalizing fuel with
  | nil => cases fuel <;> rfl
  | cons field fields ih =>
    obtain ⟨hfield, hfields⟩ := List.forall_mem_cons.mp h
    rw [List.length_cons] at hfuel
    obtain ⟨fuel, rfl⟩ : ∃ smaller, fuel = smaller + 1 := ⟨fuel - 1, by omega⟩
    have hread := readField_write hfield room (writeAll fields)
    rw [writeAll_cons]
    generalize hbytes : field.write ++ writeAll fields = bytes at hread ⊢
    cases bytes with
    | nil => cases hread
    | cons byte bytes =>
      have hothers := ih hfields (Nat.le_of_succ_le_succ hfuel)
      simp only [readFieldsWithin, hread, Option.bind_eq_bind, Option.bind_some, hothers]
      rfl

/-- Fields have at least as many bytes as there are fields. -/
theorem length_le_length_writeAll {fields : List WireField}
    (h : ∀ field ∈ fields, field.payload.Readable) :
    fields.length ≤ (writeAll fields).length := by
  induction fields with
  | nil => exact Nat.le_refl _
  | cons field fields ih =>
    obtain ⟨hfield, hfields⟩ := List.forall_mem_cons.mp h
    have hwritten : field.payload.Written := by
      rcases field with ⟨number, _ | _ | _ | _⟩ <;> trivial
    have hpos := List.length_pos_iff.mpr (write_ne_nil hwritten)
    have hrest := ih hfields
    rw [writeAll_cons, List.length_append, List.length_cons]
    omega

/-- Written fields are read back. -/
theorem readFields_writeAll {fields : List WireField}
    (h : ∀ field ∈ fields, field.Readable isMap) (room : Nat) :
    readFields isMap room (writeAll fields) = some fields :=
  readFieldsWithin_writeAll h <|
    length_le_length_writeAll fun field hfield => (h field hfield).payload

/-- A field has more bytes than the bytes that it holds. -/
theorem length_le_length_write (number : Nat) (value : Bytes) :
    value.length ≤ (write ⟨number, .bytes value⟩).length := by
  simp only [write, delimitedField, List.length_append]
  omega

end WireField

/-- No number in it is beyond 64 bits. -/
def Payload.Counted : Payload → Prop
  | varint value => value < UInt64.size
  | bytes _ => True
  | fixed | group => False

namespace Payload

theorem counted_ofUInt64 (value : UInt64) : ∀ payload ∈ ofUInt64 value, payload.Counted := by
  unfold ofUInt64
  split
  · exact nofun
  · exact List.forall_mem_singleton.mpr value.toNat_lt_size

theorem counted_ofBytes (value : Bytes) : ∀ payload ∈ ofBytes value, payload.Counted := by
  unfold ofBytes
  split
  · exact nofun
  · exact List.forall_mem_singleton.mpr trivial

end Payload

namespace Layout

/-- A layout with numbers that a key can hold. What stands under the number of a map is bytes. -/
inductive Legible (isMap : Nat → Bool) : Layout → Prop
  | nil : Legible isMap []
  | plain {number : Nat} {payloads : List Payload} {rest : Layout}
      (hnumber : 0 < number ∧ number < 2 ^ 29) (hplain : isMap number = false)
      (h : ∀ payload ∈ payloads, payload.Counted) (hrest : Legible isMap rest) :
      Legible isMap ((number, payloads) :: rest)
  | inner {number : Nat} (values : List Bytes) {rest : Layout}
      (hnumber : 0 < number ∧ number < 2 ^ 29) (hrest : Legible isMap rest) :
      Legible isMap ((number, values.map .bytes) :: rest)

variable {isMap : Nat → Bool} {room : Nat} {layout : Layout}

/-- A part of a layout that is short enough has payloads that are. -/
theorem readable_of_length_lt {payloads : List Payload}
    (hcounted : ∀ payload ∈ payloads, payload.Counted) (number : Nat)
    (hlength : (WireField.writeAll (payloads.map (WireField.mk number))).length < UInt64.size) :
    ∀ payload ∈ payloads, payload.Readable := by
  induction payloads with
  | nil => exact nofun
  | cons payload payloads ih =>
    obtain ⟨hfirst, hrest⟩ := List.forall_mem_cons.mp hcounted
    rw [List.map_cons, WireField.writeAll_cons, List.length_append] at hlength
    refine List.forall_mem_cons.mpr ⟨?_, ih hrest (by omega)⟩
    cases payload with
    | varint value => exact hfirst
    | bytes value =>
      have hvalue := WireField.length_le_length_write number value
      exact Nat.lt_of_le_of_lt hvalue (by omega)
    | fixed => exact hfirst
    | group => exact hfirst

/-- All fields of a legible layout can be read, if its bytes have a length that is a number of 64
bits. -/
theorem Legible.readable (h : Legible isMap layout) (hlength : layout.write.length < UInt64.size) :
    ∀ field ∈ layout.fields, field.Readable isMap := by
  induction h with
  | nil => exact nofun
  | @plain number payloads rest hnumber hplain hcounted _ ih =>
    rw [write_cons, List.length_append] at hlength
    intro field hfield
    rw [fields_cons, List.mem_append, List.mem_map] at hfield
    obtain ⟨payload, hpayload, rfl⟩ | hfield := hfield
    · have hreadable := readable_of_length_lt hcounted number (by omega)
      refine ⟨hnumber.1, hnumber.2, hreadable payload hpayload, fun hisMap => ?_⟩
      rw [hplain] at hisMap
      cases hisMap
    · exact ih (by omega) field hfield
  | @inner number values rest hnumber _ ih =>
    rw [write_cons, List.length_append] at hlength
    intro field hfield
    rw [fields_cons, List.mem_append, List.mem_map] at hfield
    obtain ⟨payload, hpayload, rfl⟩ | hfield := hfield
    · have hcounted : ∀ payload ∈ values.map Payload.bytes, payload.Counted := by
        simp [Payload.Counted]
      have hreadable := readable_of_length_lt hcounted number (by omega)
      refine ⟨hnumber.1, hnumber.2, hreadable payload hpayload, fun _ => ?_⟩
      obtain ⟨value, -, rfl⟩ := List.mem_map.mp hpayload
      exact ⟨value, rfl⟩
    · exact ih (by omega) field hfield

/-- No inner message of a legible layout is longer than a number of 64 bits can say. -/
theorem Legible.length_lt (h : Legible isMap layout) (hlength : layout.write.length < UInt64.size)
    {number : Nat} {values : List Bytes} (hpart : (number, values.map .bytes) ∈ layout) :
    ∀ value ∈ values, value.length < UInt64.size := by
  intro value hvalue
  have hfield : ⟨number, .bytes value⟩ ∈ layout.fields := by
    refine List.mem_flatMap.mpr ⟨_, hpart, ?_⟩
    exact List.mem_map_of_mem (List.mem_map_of_mem hvalue)
  exact (h.readable hlength _ hfield).payload

end Layout

variable {α β : Type} {step : α → WireField → Option α}

/-- Fields that are taken in one after the other lead from one value to another. -/
def Takes (step : α → WireField → Option α) (fields : List WireField) (before after : α) : Prop :=
  fields.foldlM step before = some after

/-- The bytes of a legible layout are read to what its fields lead to. -/
theorem Layout.Legible.mergeFields_write {isMap : Nat → Bool} {room : Nat} {layout : Layout}
    (h : layout.Legible isMap) (hlength : layout.write.length < UInt64.size) {before after : α}
    (htakes : Takes step layout.fields before after) :
    mergeFields isMap room step before layout.write = some after := by
  have hread := WireField.readFields_writeAll (h.readable hlength) room
  rw [mergeFields, write, hread, Option.bind_eq_bind, Option.bind_some]
  exact htakes

/-- A layout is taken in part by part. -/
theorem Takes.cons {number : Nat} {payloads : List Payload} {rest : Layout}
    {before middle after : α}
    (hfirst : Takes step (payloads.map (WireField.mk number)) before middle)
    (hrest : Takes step rest.fields middle after) :
    Takes step (Layout.fields ((number, payloads) :: rest)) before after := by
  unfold Takes at hfirst hrest ⊢
  rw [Layout.fields_cons, List.foldlM_append, hfirst]
  exact hrest

theorem Takes.nil (value : α) : Takes step (Layout.fields []) value value := rfl

/-- What is written of a value: nothing if it is the default, or a payload in which a reader finds
it. -/
inductive Payload.Tells (read : WireField → Option β) (default : β) : List Payload → β → Prop
  | absent : Tells read default [] default
  | present {payload : Payload} {value : β} (h : ∀ number, read ⟨number, payload⟩ = some value) :
      Tells read default [payload] value

namespace Payload

theorem tells_ofInt64 (value : Int64) : Tells WireField.int64? 0 (ofInt64 value) value := by
  unfold ofInt64 ofUInt64
  by_cases hzero : value.toUInt64 = 0
  · have hvalue : value = 0 := congrArg UInt64.toInt64 hzero
    rw [if_pos hzero, hvalue]
    exact .absent
  · rw [if_neg hzero]
    refine .present fun number => ?_
    change some (UInt64.ofNat value.toUInt64.toNat).toInt64 = some value
    rw [UInt64.ofNat_toNat]
    rfl

/-- The low bits of a number that was extended with its sign are the number. -/
theorem toInt32_ofNat_toInt64 (value : Int32) :
    (UInt32.ofNat value.toInt64.toUInt64.toNat).toInt32 = value := by
  have hlow := congrArg Int32.toBitVec (Int32.toInt32_toInt64 value)
  rw [Int64.toBitVec_toInt32, BitVec.signExtend_eq_setWidth_of_le _ (by decide)] at hlow
  rw [UInt32.ofNat_uInt64ToNat, ← Int32.toBitVec_inj]
  exact hlow

theorem tells_ofEnum (value : Int32) : Tells WireField.enum? 0 (ofEnum value) value := by
  unfold ofEnum ofInt64 ofUInt64
  by_cases hzero : value.toInt64.toUInt64 = 0
  · have hvalue : value = 0 := by
      rw [← toInt32_ofNat_toInt64 value, hzero]
      rfl
    rw [if_pos hzero, hvalue]
    exact .absent
  · rw [if_neg hzero]
    exact .present fun _ => congrArg some (toInt32_ofNat_toInt64 value)

theorem tells_ofBool (value : Bool) : Tells WireField.bool? false (ofBool value) value := by
  cases value with
  | false => exact .absent
  | true => exact .present fun _ => rfl

theorem tells_ofBytes (value : Bytes) : Tells WireField.bytes? [] (ofBytes value) value := by
  unfold ofBytes
  by_cases hempty : value = []
  · rw [if_pos hempty, hempty]
    exact .absent
  · rw [if_neg hempty]
    exact .present fun _ => rfl

/-- The bytes of a text are read back as the text. -/
theorem fromUTF8?_utf8 (text : String) : String.fromUTF8? (utf8 text).toByteArray = some text := by
  have hbytes : (utf8 text).toByteArray = text.toByteArray := by
    apply ByteArray.ext
    rw [List.data_toByteArray, utf8, Array.toArray_toList]
  rw [hbytes, String.fromUTF8?, dif_pos text.isValidUTF8]
  rfl

theorem tells_ofString (value : String) : Tells WireField.string? "" (ofString value) value := by
  unfold ofString ofBytes
  by_cases hempty : utf8 value = []
  · have hvalue : value = "" := utf8_inj.mp hempty
    rw [if_pos hempty, hvalue]
    exact .absent
  · rw [if_neg hempty]
    exact .present fun _ => fromUTF8?_utf8 value

end Payload

/-- A part that tells a value is taken in by setting the value, where the default stood. -/
theorem takes_of_tells (set : β → α) {read : WireField → Option β} {number : Nat}
    {payloads : List Payload} {default value : β} (h : Payload.Tells read default payloads value)
    (hstep : ∀ payload, step (set default) ⟨number, payload⟩ =
      (read ⟨number, payload⟩).bind fun value => some (set value)) :
    Takes step (payloads.map (WireField.mk number)) (set default) (set value) := by
  cases h with
  | absent => rfl
  | present hread =>
    rw [Takes, List.map_singleton, List.foldlM_cons, hstep, hread]
    rfl

/-- Inner messages under one number are taken in one after the other. -/
theorem takes_inner {σ : Type} (set : σ → α) (push : σ → β → σ) (start : σ) {encode : β → Bytes}
    {number : Nat} {items : List β}
    (h : ∀ state, ∀ item ∈ items, step (set state) ⟨number, .bytes (encode item)⟩ =
      some (set (push state item))) :
    Takes step (((items.map encode).map Payload.bytes).map (WireField.mk number)) (set start)
      (set (items.foldl push start)) := by
  induction items generalizing start with
  | nil => rfl
  | cons item rest ih =>
    have hfirst := h start item (.head _)
    rw [Takes, List.map_cons, List.map_cons, List.map_cons, List.foldlM_cons, hfirst]
    exact ih _ fun state other hother => h state other (.tail _ hother)

/-- Inner messages under one number make up a list. -/
theorem takes_repeated (set : List β → α) {encode : β → Bytes} {number : Nat} {items : List β}
    (h : ∀ earlier, ∀ item ∈ items, step (set earlier) ⟨number, .bytes (encode item)⟩ =
      some (set (earlier ++ [item]))) :
    Takes step (((items.map encode).map Payload.bytes).map (WireField.mk number)) (set [])
      (set items) := by
  have htaken := takes_inner set (fun earlier item => earlier ++ [item]) [] h
  rwa [List.foldl_append_eq_append, List.nil_append, ← List.flatMap_def,
    List.flatMap_singleton'] at htaken

/-- An inner message that may be absent is taken in where none was before. -/
theorem takes_optional (set : Option β → α) {encode : β → Bytes} {number : Nat} {value : Option β}
    (h : ∀ x ∈ value, step (set none) ⟨number, .bytes (encode x)⟩ = some (set (some x))) :
    Takes step (((value.toList.map encode).map Payload.bytes).map (WireField.mk number)) (set none)
      (set value) := by
  cases value with
  | none => rfl
  | some x =>
    rw [Takes, Option.toList_some, List.map_singleton, List.map_singleton, List.map_singleton,
      List.foldlM_cons, h x rfl]
    rfl

end PluginSchema.Protobuf
