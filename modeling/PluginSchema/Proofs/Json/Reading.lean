import PluginSchema.Json.Variant
import PluginSchema.Proofs.Json.Document

/-!
# Reading written values

The readers of simple values, arrays, maps and variants give back what was written, wherever the
containers of the written value fit into the room that is left. A map is given back only if its
entries ascend, since it is put in order as it is read.
-/

namespace PluginSchema.Json

namespace Value

mutual

/-- How deep the containers of a value nest. -/
def depth : Value → Nat
  | bool _ | int _ | str _ => 0
  | arr items => itemsDepth items + 1
  | obj members => membersDepth members + 1

/-- How deep containers nest in some items. -/
def itemsDepth : List Value → Nat
  | [] => 0
  | item :: rest => max item.depth (itemsDepth rest)

/-- How deep containers nest in some members. -/
def membersDepth : List (String × Value) → Nat
  | [] => 0
  | (_, value) :: rest => max value.depth (membersDepth rest)

end

theorem itemsDepth_le_iff {items : List Value} {room : Nat} :
    itemsDepth items ≤ room ↔ ∀ item ∈ items, item.depth ≤ room := by
  induction items with
  | nil => simp [itemsDepth]
  | cons item rest ih => rw [itemsDepth, Nat.max_le, ih, List.forall_mem_cons]

theorem membersDepth_le_iff {members : List (String × Value)} {room : Nat} :
    membersDepth members ≤ room ↔ ∀ entry ∈ members, entry.2.depth ≤ room := by
  induction members with
  | nil => simp [membersDepth]
  | cons entry rest ih => rw [membersDepth, Nat.max_le, ih, List.forall_mem_cons]

/-- An array leaves room for its items. -/
theorem exists_room_of_depth_arr {items : List Value} {room : Nat}
    (h : (arr items).depth ≤ room) :
    ∃ inner, room = inner + 1 ∧ ∀ item ∈ items, item.depth ≤ inner := by
  rw [depth] at h
  obtain ⟨inner, rfl⟩ : ∃ inner, room = inner + 1 := ⟨room - 1, by omega⟩
  exact ⟨inner, rfl, itemsDepth_le_iff.mp (by omega)⟩

/-- An object leaves room for its members. -/
theorem exists_room_of_depth_obj {members : List (String × Value)} {room : Nat}
    (h : (obj members).depth ≤ room) :
    ∃ inner, room = inner + 1 ∧ ∀ entry ∈ members, entry.2.depth ≤ inner := by
  rw [depth] at h
  obtain ⟨inner, rfl⟩ : ∃ inner, room = inner + 1 := ⟨room - 1, by omega⟩
  exact ⟨inner, rfl, membersDepth_le_iff.mp (by omega)⟩

theorem membersFit_iff {members : List (String × Value)} :
    MembersFit members ↔ ∀ entry ∈ members, entry.2.Fits := by
  induction members with
  | nil => simp [MembersFit]
  | cons entry rest ih => rw [MembersFit, ih, List.forall_mem_cons]

/-- Numbers of 64 bits fit. -/
theorem fits_int_toNat (n : UInt64) : (int n.toNat).Fits := by
  have := n.toNat_lt_size
  rw [Fits]
  omega

/-- An object fits if its members do. -/
theorem fits_obj {members : List (String × Value)} (h : ∀ entry ∈ members, entry.2.Fits) :
    (obj members).Fits := membersFit_iff.mpr h

/-- A member that may be absent fits if it does where it is there. -/
theorem fits_optional {α : Type} {write : α → Value} {x : Option α} (key : String)
    (h : ∀ y ∈ x, (write y).Fits) : ∀ entry ∈ optional key write x, entry.2.Fits := by
  cases x with
  | none => exact nofun
  | some y => exact List.forall_mem_cons.mpr ⟨h y rfl, nofun⟩

end Value

variable {α : Type} {room : Nat}

mutual

/-- A written value can be looked through. -/
theorem Node.lookThrough_node : (value : Value) → ∀ room, value.depth ≤ room →
    value.node.lookThrough room = .ok ()
  | .bool _, _, _ | .int _, _, _ | .str _, _, _ => rfl
  | .arr items, room, h => by
    obtain ⟨inner, rfl, hitems⟩ := Value.exists_room_of_depth_arr h
    exact Items.lookThrough_itemNodes items inner hitems
  | .obj members, room, h => by
    obtain ⟨inner, rfl, hmembers⟩ := Value.exists_room_of_depth_obj h
    exact Members.lookThrough_memberNodes members inner hmembers

theorem Items.lookThrough_itemNodes : (items : List Value) → ∀ room,
    (∀ item ∈ items, item.depth ≤ room) → (Value.itemNodes items).lookThrough room = .ok ()
  | [], _, _ => rfl
  | item :: rest, room, h => by
    obtain ⟨hitem, hrest⟩ := List.forall_mem_cons.mp h
    rw [Value.itemNodes, Items.lookThrough, Node.lookThrough_node item room hitem]
    exact Items.lookThrough_itemNodes rest room hrest

theorem Members.lookThrough_memberNodes : (members : List (String × Value)) → ∀ room,
    (∀ entry ∈ members, entry.2.depth ≤ room) →
    (Value.memberNodes members).lookThrough room = .ok ()
  | [], _, _ => rfl
  | (key, value) :: rest, room, h => by
    obtain ⟨hvalue, hrest⟩ := List.forall_mem_cons.mp h
    rw [Value.memberNodes, Members.lookThrough, Node.lookThrough_node value room hvalue]
    exact Members.lookThrough_memberNodes rest room hrest

end

/-- A truth value is read back. -/
theorem readBool_node (value : Bool) : readBool room (Value.bool value).node = .ok value := rfl

/-- A text is read back. -/
theorem readString_node (text : String) : readString room (Value.str text).node = .ok text := rfl

/-- A number of 64 bits is read back. -/
theorem readUInt64_node (n : UInt64) : readUInt64 room (Value.int n.toNat).node = .ok n := by
  have hread : readBelow UInt64.size "u64" room (Value.int n.toNat).node = .ok n.toNat := by
    have := n.toNat_lt_size
    rw [Value.node, readBelow, if_pos (by omega), Int.toNat_natCast]
  rw [readUInt64, hread]
  exact congrArg Except.ok (UInt64.ofNat_toNat)

/-- A number of 32 bits is read back. -/
theorem readUInt32_node (n : UInt32) : readUInt32 room (Value.int n.toNat).node = .ok n := by
  have hread : readBelow UInt32.size "u32" room (Value.int n.toNat).node = .ok n.toNat := by
    have := n.toNat_lt_size
    rw [Value.node, readBelow, if_pos (by omega), Int.toNat_natCast]
  rw [readUInt32, hread]
  exact congrArg Except.ok (UInt32.ofNat_toNat)

/-- What can be read can be read where it may be absent, since nothing is written as `null`. -/
theorem readOptional_node {read : Reader α} {value : Value} {x : α}
    (h : read room value.node = .ok x) : readOptional read room value.node = .ok (some x) := by
  have hread : readOptional read room value.node = some <$> read room value.node := by
    cases value <;> rfl
  rw [hread, h]
  rfl

/-- An array of values that are read back is read back. -/
theorem readList_node {read : Reader α} {write : α → Value} {xs : List α}
    (h : ∀ x ∈ xs, read room (write x).node = .ok x) :
    readList read (room + 1) (Value.arr (xs.map write)).node = .ok xs := by
  have hitems : readItems (read room) (Value.itemNodes (xs.map write)) = .ok xs := by
    induction xs with
    | nil => rfl
    | cons x xs ih =>
      obtain ⟨hx, hxs⟩ := List.forall_mem_cons.mp h
      rw [List.map_cons, Value.itemNodes, readItems, hx, ih hxs]
      rfl
  exact hitems

/-- An object whose values are read back is read as the map that its members build. -/
theorem readMap_members {read : Reader α} {write : α → Value} {entries : List (String × α)}
    (h : ∀ entry ∈ entries, read room (write entry.2).node = .ok entry.2) :
    readMap read (room + 1) (Value.obj (entries.map fun entry => (entry.1, write entry.2))).node =
      .ok (NameMap.ofList entries) := by
  have hmembers : readMembers (read room)
      (Value.memberNodes (entries.map fun entry => (entry.1, write entry.2))) = .ok entries := by
    induction entries with
    | nil => rfl
    | cons entry entries ih =>
      obtain ⟨hentry, hentries⟩ := List.forall_mem_cons.mp h
      rw [List.map_cons, Value.memberNodes, readMembers, hentry, ih hentries]
      rfl
  change (do return NameMap.ofList (← readMembers (read room) _) : Reading (NameMap α)) = _
  rw [hmembers]
  rfl

/-- A map whose entries ascend is read back, if the values of the entries are. -/
theorem readMap_node {read : Reader α} {write : α → Value} {entries : NameMap α}
    (hascending : entries.Ascending)
    (h : ∀ entry ∈ entries, read room (write entry.2).node = .ok entry.2) :
    readMap read (room + 1) (Value.obj (entries.map fun entry => (entry.1, write entry.2))).node =
      .ok entries := by
  rw [readMap_members h, NameMap.ofList_eq_self hascending]

variable {variants : List (String × Variant α)} {name : String}

/-- The name of a variant without content is read as the variant. -/
theorem readVariant_bare {x : α} (mode : Mode) (h : variants.lookup name = some (.bare x)) :
    readVariant mode variants room (Value.str name).node = .ok x := by
  rw [Value.node, readVariant, findVariant, h]
  rfl

/-- An object that names a variant with content is read as the content is. -/
theorem readVariant_content {read : Reader α} {value : Value} {x : α} (mode : Mode)
    (h : variants.lookup name = some (.content read)) (hread : read room value.node = .ok x) :
    readVariant mode variants (room + 1) (Value.obj [(name, value)]).node = .ok x := by
  have htagged : readTagged mode variants room (Value.memberNodes [(name, value)]) = .ok x := by
    rw [Value.memberNodes, readTagged, findVariant, h]
    change (do let value ← read room value.node; Members.readEnd .close; return value) = _
    rw [hread]
    rfl
  cases mode <;> exact htagged

end PluginSchema.Json
