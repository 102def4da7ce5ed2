import PluginSchema.SchemaError

/-!
# What a protocol version can carry

Conversion looks at the features of the negotiated version and never at its number, which only
stands in messages.
-/

namespace PluginSchema

/-- The features of a protocol version. -/
structure Capabilities where
  version : UInt32
  nestedAttributes : Bool := false
  deriving DecidableEq

namespace Capabilities

/-- Version 5 carries attributes with types only. -/
def v5 : Capabilities := { version := 5 }

/-- Version 6 adds groups of nested attributes. -/
def v6 : Capabilities := { version := 6, nestedAttributes := true }

/-- The features of a version without any optional one. -/
def ofVersion (version : UInt32) : Capabilities := { version }

/-- Allow or forbid nested attributes. -/
def withNestedAttributes (capabilities : Capabilities) (allowed : Bool) : Capabilities :=
  { capabilities with nestedAttributes := allowed }

/-- The versions whose features are known. -/
def supportedVersions : List UInt32 := [5, 6]

/-- The features of a known version. -/
def forVersion (version : UInt32) : Except SchemaError Capabilities :=
  match version with
  | 5 => .ok v5
  | 6 => .ok v6
  | other => .error (.unsupportedProtocolVersion other)

end Capabilities

end PluginSchema
