import PluginSchema.Attribute
import PluginSchema.SchemaError

/-!
# Sound attributes

Whatever the protocol version, an attribute has either a type or a non-empty group, somebody
sets it, and it is not both required and optional. The check looks at one attribute and not at
those nested in it.
-/

namespace PluginSchema

namespace Attribute

/-- The first rule that an attribute breaks: about its type, then about its flags. -/
def validate (path : Path) (a : Attribute) : Except SchemaError Unit := do
  match a.type?, a.group? with
  | none, none => throw (.missingType path)
  | some _, some _ => throw (.conflictingType path)
  | _, _ => pure ()
  if !a.flags.required && !a.flags.optional && !a.flags.computed then
    throw (.missingConstraint path)
  if a.flags.required && a.flags.optional then
    throw (.conflictingConstraint path)

/-- Whether an attribute breaks no rule. -/
def isValid (a : Attribute) : Bool :=
  (a.validate .root).isOk

end Attribute

end PluginSchema
