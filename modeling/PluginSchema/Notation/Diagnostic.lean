import PluginSchema.Capabilities
import PluginSchema.Diagnostic
import PluginSchema.Json.Record
import PluginSchema.Json.Value
import PluginSchema.Json.Variant
import PluginSchema.Path

/-!
# Paths, capabilities and diagnostics as JSON

A path is an array of names. What a diagnostic does not say is left out.
-/

namespace PluginSchema

open Json (RecordField Reader Value Variant)

namespace Path

/-- The JSON of a path. -/
def toJson (path : Path) : Value := .arr (path.steps.map .str)

/-- Read a path. -/
def read : Reader Path := fun room node =>
  return ⟨← Json.readList Json.readString room node⟩

end Path

namespace Capabilities

/-- The JSON of capabilities. -/
def toJson (capabilities : Capabilities) : Value := .obj [
  ("version", .int capabilities.version.toNat),
  ("nested_attributes", .bool capabilities.nestedAttributes)]

/-- The fields of capabilities: the version has no default. -/
def fields : List (RecordField Capabilities) := [
  { RecordField.of "version" Json.readUInt32
      (fun capabilities value => { capabilities with version := value }) with
    presence := .required },
  .of "nested_attributes" Json.readBool
    fun capabilities value => { capabilities with nestedAttributes := value }]

/-- Read capabilities. -/
def read : Reader Capabilities :=
  Json.readRecord .direct "ProtocolCapabilities" fields { version := 0 }

end Capabilities

namespace Severity

/-- The name of a severity. -/
def name : Severity → String
  | error => "error"
  | warning => "warning"

/-- The JSON of a severity. -/
def toJson (severity : Severity) : Value := .str severity.name

/-- The severities by their names. -/
def variants : List (String × Variant Severity) :=
  [error, warning].map fun severity => (severity.name, .bare severity)

/-- Read a severity. -/
def read : Reader Severity := Json.readVariant .direct variants

end Severity

namespace Diagnostic

/-- The JSON of a diagnostic. -/
def toJson (diagnostic : Diagnostic) : Value :=
  .obj ([("severity", diagnostic.severity.toJson), ("summary", .str diagnostic.summary)]
    ++ Value.optional "detail" .str diagnostic.detail
    ++ Value.optional "attribute" .str diagnostic.location)

/-- The fields of a diagnostic: what it must say, and what it need not. -/
def fields : List (RecordField Diagnostic) := [
  { RecordField.of "severity" Severity.read
      (fun diagnostic value => { diagnostic with severity := value }) with
    presence := .required },
  { RecordField.of "summary" Json.readString
      (fun diagnostic value => { diagnostic with summary := value }) with
    presence := .required },
  { RecordField.of "detail" (Json.readOptional Json.readString)
      (fun diagnostic value => { diagnostic with detail := value }) with
    presence := .optional },
  { RecordField.of "attribute" (Json.readOptional Json.readString)
      (fun diagnostic value => { diagnostic with location := value }) with
    presence := .optional }]

/-- Read a diagnostic. -/
def read : Reader Diagnostic := Json.readRecord .direct "Diagnostic" fields (.error "")

end Diagnostic

end PluginSchema
