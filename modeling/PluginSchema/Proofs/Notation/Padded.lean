import PluginSchema.Proofs.Json.Whole

/-!
# Empty contents

Where a type or a nesting mode is the name of something without content, a lenient reader takes an
empty object for the content that is not there. Whether a value has such a place in it depends on
what the value is read as: the same object may be a type here and a member that nobody reads there.
-/

namespace PluginSchema

open Json (Node)

/-- What a value is read as. -/
inductive Role where
  | type
  | types
  | nestingMode
  | group
  | attribute
  | attributes
  | block
  deriving DecidableEq

namespace Role

/-- The names of what has no content. -/
def bareNames : Role → List String
  | type => ["string", "number", "int64", "float64", "bool", "dynamic"]
  | nestingMode => ["single", "list", "set", "map"]
  | _ => []

/-- The names of the items, where the value may be an array. -/
def itemNames : Role → List String
  | group => ["nesting_mode", "attributes", "min_items", "max_items"]
  | block => ["attributes", "description", "markdown_description", "deprecation_message"]
  | _ => []

/-- What a part with a name is read as, if its own parts matter. -/
def part : Role → String → Option Role
  | type, "list" | type, "set" | type, "map" => some type
  | type, "object" => some types
  | types, _ => some type
  | group, "nesting_mode" => some nestingMode
  | group, "attributes" => some attributes
  | .attribute, "type" => some type
  | .attribute, "nested" => some group
  | attributes, _ => some .attribute
  | block, "attributes" => some attributes
  | _, _ => none

/-- Somewhere in a value, a name without content is given an empty object as its content. -/
inductive Padded : Role → Node → Prop
  | here {role : Role} {node : Node} {name : String} (hname : name ∈ role.bareNames)
      (hpart : (name, .obj .close) ∈ node.parts role.itemNames) : Padded role node
  | inside {role inner : Role} {node value : Node} {name : String}
      (hinner : role.part name = some inner) (hpart : (name, value) ∈ node.parts role.itemNames)
      (h : Padded inner value) : Padded role node

/-- The same for a part with a name. -/
def PaddedAt (role : Role) (name : String) (node : Node) : Prop :=
  (name ∈ role.bareNames ∧ node = .obj .close) ∨
    ∃ inner, role.part name = some inner ∧ Padded inner node

/-- A value is padded just if a part of it is. -/
theorem padded_iff (role : Role) (node : Node) :
    role.Padded node ↔ ∃ part ∈ node.parts role.itemNames, role.PaddedAt part.1 part.2 := by
  constructor
  · rintro (⟨hname, hpart⟩ | ⟨hinner, hpart, h⟩)
    · exact ⟨_, hpart, .inl ⟨hname, rfl⟩⟩
    · exact ⟨_, hpart, .inr ⟨_, hinner, h⟩⟩
  · rintro ⟨⟨name, part⟩, hpart, ⟨hname, rfl⟩ | ⟨inner, hinner, h⟩⟩
    · exact .here hname hpart
    · exact .inside hinner hpart h

/-- A name without content is padded just by an empty object. -/
theorem paddedAt_of_bare {role : Role} {name : String} (hname : name ∈ role.bareNames)
    (hpart : role.part name = none) (node : Node) :
    role.PaddedAt name node ↔ node = .obj .close := by
  simp [PaddedAt, hname, hpart]

/-- A part is padded just if what it is read as is. -/
theorem paddedAt_of_part {role inner : Role} {name : String} (hname : name ∉ role.bareNames)
    (hpart : role.part name = some inner) (node : Node) :
    role.PaddedAt name node ↔ inner.Padded node := by
  simp [PaddedAt, hname, hpart]

/-- What has no parts that matter is not padded. -/
theorem not_paddedAt {role : Role} {name : String} (hname : name ∉ role.bareNames)
    (hpart : role.part name = none) (node : Node) : ¬role.PaddedAt name node := by
  simp [PaddedAt, hname, hpart]

/-- A map is padded just if a value in it is. -/
theorem padded_iff_values {role inner : Role} (hbare : role.bareNames = [])
    (hitems : role.itemNames = []) (hpart : ∀ name, role.part name = some inner) (node : Node) :
    role.Padded node ↔ ∃ part ∈ node.parts [], inner.Padded part.2 := by
  have hat (name : String) (node : Node) : role.PaddedAt name node ↔ inner.Padded node :=
    paddedAt_of_part (by simp [hbare]) (hpart name) node
  simp only [padded_iff role, hitems, hat]

/-- Nothing is not padded. -/
theorem not_padded_null (role : Role) : ¬role.Padded .null := by
  rw [padded_iff]
  rintro ⟨_, hpart, _⟩
  cases hpart

/-- The names that a record has for parts that matter. -/
def partNames : Role → List String
  | group => ["nesting_mode", "attributes"]
  | .attribute => ["type", "nested"]
  | block => ["attributes"]
  | _ => []

/-- Only under its own names has a record padded parts. -/
theorem mem_of_paddedAt {role : Role} (hrole : role ∈ [group, .attribute, block])
    {names : List String} (hnames : ∀ name ∈ role.partNames, name ∈ names) {name : String}
    {node : Node} (h : role.PaddedAt name node) : name ∈ names := by
  refine hnames name ?_
  obtain ⟨hname, -⟩ | ⟨inner, hinner, -⟩ := h
  · simp only [List.mem_cons, List.not_mem_nil, or_false] at hrole
    obtain rfl | rfl | rfl := hrole <;> cases hname
  · unfold part at hinner
    split at hinner <;> simp_all [partNames]

end Role

end PluginSchema
