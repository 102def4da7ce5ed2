import PluginSchema.Conversion.Trace
import PluginSchema.Log.Filter
import PluginSchema.Text.Quoted

/-!
# Records of the log

An event of a conversion is logged as a record: a level, a message and named values. A line of
the log shows a record that the filter lets through, behind the span that encloses it if that is
opened.
-/

namespace PluginSchema.Log

open Conversion (Event Span Trace)

/-- A named value of a record. -/
structure Entry where
  name : String
  text : String
  /-- Whether a line shows the text in quotes. -/
  inQuotes : Bool := false

/-- What is logged of an event. -/
structure Record where
  level : Level
  message : String
  entries : List Entry

/-- The target of all records and spans. -/
def conversionTarget : String := "hemmer_provider_schema::convert"

/-- How a record shows a text that may be absent. -/
def shownOption : Option String → String
  | some text => "Some(" ++ Text.quoted text ++ ")"
  | none => "None"

/-- The record of an event. -/
def Record.ofEvent : Event → Record
  | .attributeStarted name path =>
    ⟨.trace, "converting schema attribute",
      [⟨"attribute", name, true⟩, ⟨"path", path.dotted, false⟩]⟩
  | .attributeRefused path (.unsupportedNesting _ version) =>
    ⟨.debug, "nested attributes not supported",
      [⟨"path", path.dotted, false⟩, ⟨"version", toString version, false⟩]⟩
  | .attributeRefused path error =>
    ⟨.debug, "invalid schema attribute",
      [⟨"path", path.dotted, false⟩, ⟨"error", error.message, false⟩]⟩
  | .resourceStarted name =>
    ⟨.trace, "converting resource schema", [⟨"resource_type", name, false⟩]⟩
  | .dataSourceStarted name =>
    ⟨.trace, "converting data source schema", [⟨"data_source_type", name, false⟩]⟩
  | .providerConverted resources dataSources =>
    ⟨.debug, "provider schema converted",
      [⟨"resources", toString resources, false⟩,
        ⟨"data_sources", toString dataSources, false⟩]⟩
  | .providerFailed error =>
    ⟨.error, "provider schema conversion failed",
      [⟨"error", error.message, false⟩,
        ⟨"path", shownOption (error.path?.map Path.dotted), false⟩]⟩

/-- The names of the fields of a record, of which the message is one. -/
def Record.fields (record : Record) : List String :=
  "message" :: record.entries.map (·.name)

/-- The span of a conversion as a filter sees it. -/
def SpanOrigin.ofSpan (span : Span) : SpanOrigin where
  name := "convert.provider_schema"
  target := conversionTarget
  level := .info
  fields := [("version", span.version.toNat)]

/-- A span as lines show it. -/
def SpanOrigin.text (span : SpanOrigin) : String :=
  let fields := span.fields.map fun (name, value) => name ++ "=" ++ toString value
  span.name ++ "\x7b" ++ String.intercalate " " fields ++ "\x7d: "

/-- A named value as lines show it. -/
def Entry.line (entry : Entry) : String :=
  " " ++ entry.name ++ "=" ++ if entry.inQuotes then Text.quoted entry.text else entry.text

/-- The line of a record behind what is shown of its span. -/
def Record.line (span : String) (record : Record) : String :=
  record.level.name ++ " " ++ span ++ conversionTarget ++ ": " ++ record.message
    ++ String.join (record.entries.map Entry.line)

/-- A log that is set up. -/
structure Logger where
  filter : Filter
  /-- The limit beyond which spans are not opened, whatever the filter wants. -/
  ceiling : Limit := filter.ceiling

/-- Whether a span is opened. -/
def Logger.opens (logger : Logger) (span : SpanOrigin) : Bool :=
  logger.ceiling.admits span.level && logger.filter.wants span

/-- The lines that are written of a conversion's trace. -/
def Logger.lines (logger : Logger) (trace : Trace) : List String :=
  let filter := logger.filter
  let span := (trace.span.map SpanOrigin.ofSpan).filter logger.opens
  let limitWithin := (span.map filter.limitWithin).getD .off
  let passes (record : Record) : Bool :=
    (filter.recordLimit conversionTarget record.fields).admits record.level ||
      limitWithin.admits record.level
  ((trace.events.map Record.ofEvent).filter passes).map
    (Record.line ((span.map SpanOrigin.text).getD ""))

end PluginSchema.Log
