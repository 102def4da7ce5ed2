import PluginSchema.Json.Number

/-!
# Documents as trees

The tree of a document keeps its members in their order, repeated keys included, and where the
text stops being JSON it holds the fault in place of what is missing. So a reader that walks the
tree meets the same things in the same order as one that walks the text, and can be studied
without the text.
-/

namespace PluginSchema.Json

/-- Where a value should be and none can be read. -/
inductive Cut where
  /-- The text ends before the value. -/
  | ended
  /-- A string breaks off. -/
  | string (strict loose : Fault)
  /-- A word that begins like `null` is another. -/
  | nullWord (fault : Fault)
  /-- Any other word, number or character breaks off or is none. -/
  | token (strict loose : Fault)

mutual

/-- A value in a document. -/
inductive Node where
  | null
  | bool (value : Bool)
  | num (value : Number)
  /-- A string, without a value if half a character is missing in it. -/
  | str (value : Option String)
  | arr (items : Items)
  | obj (members : Members)
  | cut (gap : Cut)

/-- What follows the opening bracket of an array, or one of its items. What follows an item that
holds a cut is never looked at. -/
inductive Items where
  | close
  | item (node : Node) (rest : Items)
  /-- Neither an item nor the end follows, be it that a comma was read before. -/
  | stop (comma : Bool) (fault : Fault)

/-- What follows the opening brace of an object, or one of its members. The value of a member
whose colon is missing is a cut. -/
inductive Members where
  | close
  | member (key : Option String) (node : Node) (rest : Members)
  /-- No key can be read, be it that a comma was read before. -/
  | stop (comma : Bool) (strict loose : Fault)

end

/-- The fault that a reader meets which wants a value. -/
def Cut.strict : Cut → Fault
  | ended => .ended
  | string strict _ => strict
  | nullWord fault => fault
  | token strict _ => strict

/-- The fault that a reader meets which passes over a value. -/
def Cut.loose : Cut → Fault
  | ended => .ended
  | string _ loose => loose
  | nullWord fault => fault
  | token _ loose => loose

/-- The number of items in an array. -/
def Items.length : Items → Nat
  | .item _ rest => rest.length + 1
  | _ => 0

end PluginSchema.Json
