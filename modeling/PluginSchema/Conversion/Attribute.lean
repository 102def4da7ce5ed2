import PluginSchema.Capabilities
import PluginSchema.Validation
import PluginSchema.Wire.Schema
import PluginSchema.Conversion.Run

/-!
# Conversion of attributes

An attribute is checked before its type or its nested attributes are converted, and the first
attribute that fails its check ends the conversion. What the protocol version cannot carry is
refused before anything else is looked at.
-/

namespace PluginSchema

/-- The greatest bound or version that the wire can carry stands for all greater ones. -/
def saturated (n : UInt64) : Int64 := Int64.ofNat (min n.toNat (Nat.pow 2 63 - 1))

namespace Documentation

/-- The description to send: markdown before plain text, where an empty text counts as none. -/
def resolve (plain markdown : Option String) : Wire.Description :=
  match markdown.filter (· ≠ "") with
  | some text => ⟨text, some .markdown⟩
  | none =>
    match plain.filter (· ≠ "") with
    | some text => ⟨text, some .plain⟩
    | none => ⟨"", none⟩

/-- The description to send for a piece of documentation. -/
def toWire (texts : Documentation) : Wire.Description :=
  resolve texts.description texts.markdown

/-- An empty message does not deprecate. -/
def isDeprecated (texts : Documentation) : Bool :=
  (texts.deprecation.filter (· ≠ "")).isSome

end Documentation

namespace Group

/-- Only lists and sets have a number of elements to bound. -/
def bound {α : Type} (group : Group α) (n : UInt64) : Int64 :=
  match group.mode with
  | .list | .set => saturated n
  | .single | .map => 0

/-- The wire form of a group whose attributes are converted already. -/
def toWire {α : Type} (group : Group α) (attributes : List Wire.Attribute) :
    Wire.Object Wire.Attribute where
  attributes
  nesting := group.mode
  minItems := group.bound group.minItems
  maxItems := group.bound group.maxItems

end Group

namespace Attribute

open Conversion (Run)

/-- The check of one attribute, which leaves out those nested in it: first whether the protocol
version can carry its group, then whether it is sound. -/
def check (capabilities : Capabilities) (path : Path) (a : Attribute) :
    Except SchemaError Unit :=
  if a.group?.isSome && !capabilities.nestedAttributes then
    .error (.unsupportedNesting path capabilities.version)
  else a.validate path

/-- Announce an attribute and check it. -/
def announce (capabilities : Capabilities) (name : String) (path : Path) (a : Attribute) :
    Run Unit := do
  Run.report (.attributeStarted name path)
  match a.check capabilities path with
  | .ok () => pure ()
  | .error error =>
    Run.report (.attributeRefused path error)
    Run.fail error

mutual

/-- Convert an attribute that stands at a path, and all attributes nested in it. -/
def convert (capabilities : Capabilities) (name : String) (path : Path) (a : Attribute) :
    Run Wire.Attribute := do
  a.announce capabilities name path
  match a with
  | ⟨some type, _, flags, texts⟩ =>
    return {
      name, flags
      type? := some type.toWire
      description := texts.toWire
      deprecated := texts.isDeprecated }
  | ⟨none, some ⟨mode, children, low, high⟩, flags, texts⟩ =>
    let converted ← convertAll capabilities path children
    return {
      name, flags
      nested := some ((⟨mode, children, low, high⟩ : Group Attribute).toWire converted)
      description := texts.toWire
      deprecated := texts.isDeprecated }
  | ⟨none, none, _, _⟩ => Run.fail (.missingType path)

/-- Convert the attributes below a path in their order. -/
def convertAll (capabilities : Capabilities) (path : Path) :
    List (String × Attribute) → Run (List Wire.Attribute)
  | [] => pure []
  | (name, a) :: rest => do
    let first ← convert capabilities name (path.child name) a
    let others ← convertAll capabilities path rest
    return first :: others

end

end Attribute

end PluginSchema
