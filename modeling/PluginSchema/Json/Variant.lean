import PluginSchema.Json.Reader

/-!
# Variants

A value that is one of several named variants is written as the name, or as an object whose one
member has the name as its key and the content as its value. A variant without content accepts
`null` as content.
-/

namespace PluginSchema.Json

variable {α : Type}

/-- What a variant's name stands for. -/
inductive Variant (α : Type) where
  /-- A value. -/
  | bare (value : α)
  /-- A value that is read from the content. -/
  | content (read : Reader α)

/-- Read the content of a variant that has none. -/
def readNothing (mode : Mode) : Node → Reading Unit
  | .null => .ok ()
  | .obj .close =>
    match mode with
    | .direct => Node.mismatch (.obj .close) "unit"
    | .buffered => .ok ()
  | node => node.mismatch "unit"

/-- The variant of a name. -/
def findVariant (variants : List (String × Variant α)) (name : String) : Reading (Variant α) :=
  match variants.lookup name with
  | some variant => .ok variant
  | none => .unfit (.unknownVariant name (variants.map (·.1)))

/-- Accept the end of an object that holds one member and nothing else. -/
def Members.readEnd : Members → Reading Unit
  | .close => .ok ()
  | .stop false .ended _ => .broken .ended
  | _ => .broken .malformed

/-- Whether there is exactly one member. -/
def Members.isSingle : Members → Bool
  | .member _ _ .close => true
  | _ => false

/-- Read the members of an object that names a variant. A key that is no string is no JSON, whatever
it is instead: it is not reported as a name of the wrong type. -/
def readTagged (mode : Mode) (variants : List (String × Variant α)) (room : Nat) :
    Members → Reading α
  | .member (some name) node rest => do
    let value ←
      match ← findVariant variants name with
      | .bare value => do
        readNothing mode node
        pure value
      | .content read => read room node
    rest.readEnd
    return value
  | .member none _ _ => .broken .malformed
  | .close => .broken .malformed
  | .stop _ strict _ => .broken strict

/-- Read a variant. Read directly, anything but a string or an object is no JSON as far as this
reader goes. -/
def readVariant (mode : Mode) (variants : List (String × Variant α)) : Reader α
  | _, .str (some name) => do
    match ← findVariant variants name with
    | .bare value => return value
    | .content _ => .unfit (.wrongType .bareVariant "newtype variant")
  | room, .obj members => do
    let room ← enter room
    if mode = .buffered ∧ !members.isSingle then .unfit .notOneVariant
    readTagged mode variants room members
  | _, node =>
    match mode, node with
    | .buffered, node => node.mismatch "string or map"
    | .direct, .cut .ended => .broken .ended
    | .direct, .cut (.string strict _) => .broken strict
    | .direct, _ => .broken .malformed

end PluginSchema.Json
