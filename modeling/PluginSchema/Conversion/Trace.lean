import PluginSchema.Conversion.Schema

/-!
# Traces

What an observer sees of a conversion: its events, and the span that encloses them where a
plugin's schemas are converted together.
-/

namespace PluginSchema.Conversion

/-- The time in which a plugin's schemas are converted for a protocol version. -/
structure Span where
  version : UInt32
  deriving DecidableEq

/-- The events of a conversion and the span that encloses them, if there is one. -/
structure Trace where
  span : Option Span := none
  events : List Event
  deriving DecidableEq

/-- The trace of a conversion without a span. -/
def Run.trace {α : Type} (run : Run α) : Trace := { events := run.events }

end PluginSchema.Conversion

namespace PluginSchema

/-- The trace of the conversion of a plugin's schemas. -/
def ProviderSchema.trace (capabilities : Capabilities) (schemas : ProviderSchema) :
    Conversion.Trace where
  span := some ⟨capabilities.version⟩
  events := (schemas.convert capabilities).events

end PluginSchema
