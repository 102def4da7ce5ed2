import PluginSchema.Path
import PluginSchema.Diagnostic

/-!
# Why a schema cannot be sent

Each error about an attribute carries the attribute's path, which is never part of the message:
reports for people and for the calling process add it in their own ways. An attribute with both
a type and a group has the same message as one with neither.
-/

namespace PluginSchema

/-- Why an attribute, or the negotiated protocol version, is refused. -/
inductive SchemaError where
  | missingType (path : Path)
  | conflictingType (path : Path)
  | missingConstraint (path : Path)
  | conflictingConstraint (path : Path)
  | unsupportedNesting (path : Path) (version : UInt32)
  | unsupportedProtocolVersion (version : UInt32)
  deriving DecidableEq

/-- Why a remote call failed. -/
inductive StatusCode where
  | failedPrecondition
  | internal
  deriving DecidableEq

/-- The status of a failed remote call. -/
structure Status where
  code : StatusCode
  message : String
  deriving DecidableEq

/-- The number that stands for the code in the remote procedure call protocol. -/
def StatusCode.number : StatusCode → Nat
  | failedPrecondition => 9
  | internal => 13

/-- The name of the code in the remote procedure call protocol. -/
def StatusCode.name : StatusCode → String
  | failedPrecondition => "FailedPrecondition"
  | internal => "Internal"

namespace SchemaError

/-- The message, which does not depend on the path. -/
def message : SchemaError → String
  | missingType _ | conflictingType _ => "must have Type set"
  | missingConstraint _ => "must have Required, Optional, or Computed set"
  | conflictingConstraint _ => "cannot have both Required and Optional set"
  | unsupportedNesting _ version =>
    "protocol version " ++ toString version ++ " cannot have Attributes set"
  | unsupportedProtocolVersion version => "unsupported protocol version " ++ toString version

/-- The path of the attribute that is refused. -/
def path? : SchemaError → Option Path
  | missingType path | conflictingType path | missingConstraint path
  | conflictingConstraint path | unsupportedNesting path _ => some path
  | unsupportedProtocolVersion _ => none

/-- The path of the attribute that is refused, if it lies below the root. -/
def location? (error : SchemaError) : Option Path :=
  error.path?.filter fun path => !path.isRoot

/-- The status of a call that fails with the error: a malformed schema is the plugin's fault,
an unknown protocol version the caller's. -/
def toStatus (error : SchemaError) : Status :=
  match error with
  | unsupportedProtocolVersion _ => ⟨.failedPrecondition, error.message⟩
  | _ =>
    match error.location? with
    | some path => ⟨.internal, path.dotted ++ ": " ++ error.message⟩
    | none => ⟨.internal, error.message⟩

/-- The diagnostic that reports the error. -/
def toDiagnostic (error : SchemaError) : Diagnostic :=
  match error.location? with
  | some path => (Diagnostic.error error.message).withLocation path.dotted
  | none => Diagnostic.error error.message

end SchemaError

end PluginSchema
