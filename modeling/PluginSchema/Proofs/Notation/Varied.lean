import PluginSchema.Proofs.Json.Whole

/-!
# Documents that differ in nothing that counts

Members of objects may be rearranged, and an object that stands for a record may have more members
than those that the record knows. What an object stands for depends on its place in the document:
only the places of a plugin's schemas, of attributes and of groups are told apart here. Elsewhere,
as within types or within members that nobody reads, members may be rearranged and no more.
-/

namespace PluginSchema

open Json (Items Members Node)

/-- What a value in a document stands for. -/
inductive Meaning where
  | provider
  | schemas
  | schema
  | attributes
  | attribute
  | group
  /-- A type, a text or anything else that takes no members of other names. -/
  | plain
  deriving DecidableEq

namespace Meaning

/-- What a part with a name stands for. -/
def part : Meaning → String → Meaning
  | provider, "provider" => schema
  | provider, "resources" | provider, "data_sources" => schemas
  | schemas, _ => schema
  | schema, "attributes" | group, "attributes" => attributes
  | attributes, _ => .attribute
  | .attribute, "nested" => group
  | _, _ => plain

/-- The names of the fields of a record: its own and those of the record that it takes in. -/
def fieldNames : Meaning → Option (List String)
  | provider => some ["provider", "resources", "data_sources"]
  | schema => some
    ["version", "attributes", "description", "markdown_description", "deprecation_message"]
  | .attribute => some
    ["type", "nested", "description", "markdown_description", "deprecation_message",
      "required", "optional", "computed", "sensitive"]
  | group => some ["nesting_mode", "attributes", "min_items", "max_items"]
  | schemas | attributes | plain => none

/-- What an item stands for, where a record may be an array of its fields in their order. -/
def item : Meaning → Nat → Meaning
  | provider, 0 => schema
  | provider, 1 | provider, 2 => schemas
  | group, 1 => attributes
  | _, _ => plain

/-- A name is unknown to the record that a value stands for. -/
def Unknown (meaning : Meaning) (name : String) : Prop :=
  ∃ names ∈ meaning.fieldNames, name ∉ names

/-- Of two values the second comes from the first by rearranging members, at any depth, and by
adding members with unknown names and any values where an object stands for a record. -/
inductive Varied : Meaning → Node → Node → Prop
  | same (meaning : Meaning) (node : Node) : Varied meaning node node
  | arr {meaning : Meaning} {items : List (Node × Node)}
      (h : ∀ (index : Nat) (pair : Node × Node), items[index]? = some pair →
        Varied (meaning.item index) pair.1 pair.2) :
      Varied meaning (.arr (.ofList (items.map Prod.fst))) (.arr (.ofList (items.map Prod.snd)))
  | obj {meaning : Meaning} {members : List (String × Node × Node)}
      {more others : List (String × Node)}
      (h : ∀ member ∈ members, Varied (meaning.part member.1) member.2.1 member.2.2)
      (hmore : ∀ entry ∈ more, meaning.Unknown entry.1)
      (hothers : (members.map (fun member => (member.1, member.2.2)) ++ more).Perm others) :
      Varied meaning (.obj (.ofList (members.map fun member => (member.1, member.2.1))))
        (.obj (.ofList others))

end Meaning

namespace Json.Node

/-- The items of an array. -/
def items : Node → List Node
  | .arr items => items.toList
  | _ => []

/-- In no object of a value does a key stand twice. -/
inductive Distinct : Node → Prop
  | intro {node : Node} (keys : ((node.parts []).map Prod.fst).Nodup)
      (parts : ∀ part ∈ node.parts [], Distinct part.2)
      (items : ∀ item ∈ node.items, Distinct item) : Distinct node

namespace Distinct

/-- No two members of an object have one key. -/
theorem keys_obj {entries : List (String × Node)} (h : (Node.obj (.ofList entries)).Distinct) :
    (entries.map Prod.fst).Nodup := by
  obtain ⟨hkeys, -, -⟩ := h
  rwa [parts_obj] at hkeys

/-- The same holds within the members of an object. -/
theorem of_obj {entries : List (String × Node)} (h : (Node.obj (.ofList entries)).Distinct) :
    ∀ entry ∈ entries, entry.2.Distinct := by
  obtain ⟨-, hparts, -⟩ := h
  rwa [parts_obj] at hparts

/-- The same holds within the items of an array. -/
theorem of_arr {nodes : List Node} (h : (Node.arr (.ofList nodes)).Distinct) :
    ∀ node ∈ nodes, node.Distinct := by
  obtain ⟨-, -, hitems⟩ := h
  rwa [items, Items.toList_ofList] at hitems

end Distinct

end Json.Node

end PluginSchema
