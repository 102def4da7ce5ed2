import PluginSchema.Json.Record

/-!
# Whole values

A value is whole if nothing is missing in it: its arrays and objects are closed, its strings have
values, its numbers are not too large. A whole value can be passed over, and looked through where
there is room for its containers. The members of its objects are lists, so that readers can be
studied by induction on lists.
-/

namespace PluginSchema.Json

/-- The items of an array that is closed. -/
def Items.ofList : List Node → Items
  | [] => .close
  | node :: rest => .item node (ofList rest)

/-- The members of an object that is closed. -/
def Members.ofList : List (String × Node) → Members
  | [] => .close
  | (key, node) :: rest => .member (some key) node (ofList rest)

/-- The items that can be reached. -/
def Items.toList : Items → List Node
  | .item node rest => node :: rest.toList
  | _ => []

/-- The members that can be reached. -/
def Members.toList : Members → List (String × Node)
  | .member (some key) node rest => (key, node) :: rest.toList
  | _ => []

@[simp] theorem Items.toList_ofList (nodes : List Node) : (ofList nodes).toList = nodes := by
  induction nodes with
  | nil => rfl
  | cons node rest ih => rw [ofList, toList, ih]

@[simp] theorem Members.toList_ofList (entries : List (String × Node)) :
    (ofList entries).toList = entries := by
  induction entries with
  | nil => rfl
  | cons entry rest ih => rw [ofList, toList, ih]

/-- What stands in a value under a name: the members of an object, or the items of an array that
gives the values of names in their order. -/
def Node.parts (names : List String) : Node → List (String × Node)
  | .obj members => members.toList
  | .arr items => names.zip items.toList
  | _ => []

namespace Node

/-- The parts of an object are its members. -/
@[simp] theorem parts_obj (names : List String) (entries : List (String × Node)) :
    (obj (.ofList entries)).parts names = entries := Members.toList_ofList entries

/-- The parts of an array are its items under the names. -/
@[simp] theorem parts_arr (names : List String) (nodes : List Node) :
    (arr (.ofList nodes)).parts names = names.zip nodes := by
  rw [parts, Items.toList_ofList]

/-- A whole value, in which at most so many containers nest. -/
inductive Within : Nat → Node → Prop
  | null {depth : Nat} : Within depth .null
  | bool {depth : Nat} (value : Bool) : Within depth (.bool value)
  | int {depth : Nat} (value : Int) : Within depth (.num (.int value))
  | float {depth : Nat} (value : Float) : Within depth (.num (.float value))
  | str {depth : Nat} (text : String) : Within depth (.str (some text))
  | arr {depth : Nat} {nodes : List Node} (h : ∀ node ∈ nodes, Within depth node) :
      Within (depth + 1) (.arr (.ofList nodes))
  | obj {depth : Nat} {entries : List (String × Node)}
      (h : ∀ entry ∈ entries, Within depth entry.2) :
      Within (depth + 1) (.obj (.ofList entries))

variable {depth : Nat} {node : Node}

/-- Where few containers nest, no more than many do. -/
theorem Within.mono (h : node.Within depth) {larger : Nat} (hle : depth ≤ larger) :
    node.Within larger := by
  induction h generalizing larger with
  | null => exact .null
  | bool value => exact .bool value
  | int value => exact .int value
  | float value => exact .float value
  | str text => exact .str text
  | arr _ ih =>
    obtain ⟨larger, rfl⟩ : ∃ smaller, larger = smaller + 1 := ⟨larger - 1, by omega⟩
    exact .arr fun node hnode => ih node hnode (Nat.le_of_succ_le_succ hle)
  | obj _ ih =>
    obtain ⟨larger, rfl⟩ : ∃ smaller, larger = smaller + 1 := ⟨larger - 1, by omega⟩
    exact .obj fun entry hentry => ih entry hentry (Nat.le_of_succ_le_succ hle)

end Node

/-- Items can be passed over if each can. -/
theorem Items.skip_ofList {nodes : List Node} (h : ∀ node ∈ nodes, node.skip = .ok ()) :
    (ofList nodes).skip = .ok () := by
  induction nodes with
  | nil => rfl
  | cons node rest ih =>
    obtain ⟨hnode, hrest⟩ := List.forall_mem_cons.mp h
    rw [ofList, skip, hnode]
    exact ih hrest

/-- Members can be passed over if each can. -/
theorem Members.skip_ofList {entries : List (String × Node)}
    (h : ∀ entry ∈ entries, entry.2.skip = .ok ()) : (ofList entries).skip = .ok () := by
  induction entries with
  | nil => rfl
  | cons entry rest ih =>
    obtain ⟨hentry, hrest⟩ := List.forall_mem_cons.mp h
    rw [ofList, skip, hentry]
    exact ih hrest

/-- Items can be looked through if each can. -/
theorem Items.lookThrough_ofList {room : Nat} {nodes : List Node}
    (h : ∀ node ∈ nodes, node.lookThrough room = .ok ()) :
    (ofList nodes).lookThrough room = .ok () := by
  induction nodes with
  | nil => rfl
  | cons node rest ih =>
    obtain ⟨hnode, hrest⟩ := List.forall_mem_cons.mp h
    rw [ofList, lookThrough, hnode]
    exact ih hrest

/-- Members can be looked through if each can. -/
theorem Members.lookThrough_ofList {room : Nat} {entries : List (String × Node)}
    (h : ∀ entry ∈ entries, entry.2.lookThrough room = .ok ()) :
    (ofList entries).lookThrough room = .ok () := by
  induction entries with
  | nil => rfl
  | cons entry rest ih =>
    obtain ⟨hentry, hrest⟩ := List.forall_mem_cons.mp h
    rw [ofList, lookThrough, hentry]
    exact ih hrest

namespace Node.Within

variable {depth : Nat} {node : Node}

/-- A whole value can be passed over. -/
theorem skip (h : node.Within depth) : node.skip = .ok () := by
  induction h with
  | arr _ ih => exact Items.skip_ofList ih
  | obj _ ih => exact Members.skip_ofList ih
  | _ => rfl

/-- A whole value can be looked through where there is room for its containers. -/
theorem lookThrough (h : node.Within depth) {room : Nat} (hroom : depth ≤ room) :
    node.lookThrough room = .ok () := by
  induction h generalizing room with
  | arr _ ih =>
    obtain ⟨room, rfl⟩ : ∃ smaller, room = smaller + 1 := ⟨room - 1, by omega⟩
    exact Items.lookThrough_ofList fun node hnode => ih node hnode (Nat.le_of_succ_le_succ hroom)
  | obj _ ih =>
    obtain ⟨room, rfl⟩ : ∃ smaller, room = smaller + 1 := ⟨room - 1, by omega⟩
    exact Members.lookThrough_ofList fun entry hentry =>
      ih entry hentry (Nat.le_of_succ_le_succ hroom)
  | _ => rfl

/-- A whole array leaves room for its items. -/
theorem exists_room_of_arr {nodes : List Node} (h : (Node.arr (.ofList nodes)).Within depth) :
    ∃ inner, depth = inner + 1 ∧ ∀ node ∈ nodes, node.Within inner := by
  generalize hnode : Node.arr (.ofList nodes) = node at h
  cases h with
  | @arr inner nodes' h =>
    have hnodes := congrArg Items.toList (Node.arr.inj hnode)
    rw [Items.toList_ofList, Items.toList_ofList] at hnodes
    exact ⟨inner, rfl, hnodes ▸ h⟩
  | _ => cases hnode

/-- A whole object leaves room for its members. -/
theorem exists_room_of_obj {entries : List (String × Node)}
    (h : (Node.obj (.ofList entries)).Within depth) :
    ∃ inner, depth = inner + 1 ∧ ∀ entry ∈ entries, entry.2.Within inner := by
  generalize hnode : Node.obj (.ofList entries) = node at h
  cases h with
  | @obj inner entries' h =>
    have hentries := congrArg Members.toList (Node.obj.inj hnode)
    rw [Members.toList_ofList, Members.toList_ofList] at hentries
    exact ⟨inner, rfl, hentries ▸ h⟩
  | _ => cases hnode

end Node.Within

mutual

/-- What can be looked through is whole. -/
theorem Node.within_of_lookThrough : (node : Node) → (room : Nat) →
    node.lookThrough room = .ok () → node.Within room
  | .null, _, _ => .null
  | .bool value, _, _ => .bool value
  | .num (.int value), _, _ => .int value
  | .num (.float value), _, _ => .float value
  | .str (some text), _, _ => .str text
  | .arr items, room + 1, h => by
    obtain ⟨nodes, rfl, hnodes⟩ := Items.exists_ofList_of_lookThrough items room h
    exact .arr hnodes
  | .obj members, room + 1, h => by
    obtain ⟨entries, rfl, hentries⟩ := Members.exists_ofList_of_lookThrough members room h
    exact .obj hentries

/-- An array that can be looked through is closed, and its items are whole. -/
theorem Items.exists_ofList_of_lookThrough : (items : Items) → (room : Nat) →
    items.lookThrough room = .ok () →
      ∃ nodes, items = .ofList nodes ∧ ∀ node ∈ nodes, node.Within room
  | .close, _, _ => ⟨[], rfl, nofun⟩
  | .item node rest, room, h => by
    rw [Items.lookThrough] at h
    cases hnode : node.lookThrough room with
    | error error =>
      rw [hnode] at h
      cases h
    | ok done =>
      rw [hnode] at h
      obtain ⟨nodes, rfl, hnodes⟩ := Items.exists_ofList_of_lookThrough rest room h
      exact ⟨node :: nodes, rfl,
        List.forall_mem_cons.mpr ⟨Node.within_of_lookThrough node room hnode, hnodes⟩⟩

/-- An object that can be looked through is closed, and the values of its members are whole. -/
theorem Members.exists_ofList_of_lookThrough : (members : Members) → (room : Nat) →
    members.lookThrough room = .ok () →
      ∃ entries, members = .ofList entries ∧ ∀ entry ∈ entries, entry.2.Within room
  | .close, _, _ => ⟨[], rfl, nofun⟩
  | .member (some key) node rest, room, h => by
    rw [Members.lookThrough] at h
    cases hnode : node.lookThrough room with
    | error error =>
      rw [hnode] at h
      cases h
    | ok done =>
      rw [hnode] at h
      obtain ⟨entries, rfl, hentries⟩ := Members.exists_ofList_of_lookThrough rest room h
      exact ⟨(key, node) :: entries, rfl,
        List.forall_mem_cons.mpr ⟨Node.within_of_lookThrough node room hnode, hentries⟩⟩

end

/-- The whole values are those that can be looked through. -/
theorem Node.within_iff {depth : Nat} {node : Node} :
    node.Within depth ↔ node.lookThrough depth = .ok () :=
  ⟨fun h => h.lookThrough (Nat.le_refl depth), within_of_lookThrough node depth⟩

end PluginSchema.Json
