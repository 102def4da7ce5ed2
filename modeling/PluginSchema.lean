import PluginSchema.Log.Setup
import PluginSchema.Notation.Diagnostic
import PluginSchema.Notation.Schema
import PluginSchema.Proofs.Ordered
import PluginSchema.Protobuf.Decode
import PluginSchema.Protobuf.Encode
import PluginSchema.Protobuf.OfWire
import PluginSchema.Proofs.Nodes
import PluginSchema.Proofs.Conversion.Result
import PluginSchema.Proofs.Conversion.FirstFault
import PluginSchema.Proofs.Conversion.Carried
import PluginSchema.Proofs.Conversion.Mirror
import PluginSchema.Proofs.Conversion.SchemaResult
import PluginSchema.Proofs.Conversion.AllOrNothing
import PluginSchema.Proofs.Conversion.Authored
import PluginSchema.Proofs.Conversion.Image
import PluginSchema.Proofs.Conversion.Normal
import PluginSchema.Proofs.Conversion.Forgetting
import PluginSchema.Proofs.Json.Number
import PluginSchema.Proofs.Json.Quoted
import PluginSchema.Proofs.Json.Document
import PluginSchema.Proofs.Notation.Unambiguous
import PluginSchema.Proofs.Protobuf.Fields
import PluginSchema.Proofs.Protobuf.Layout
import PluginSchema.Proofs.Protobuf.Lowering
import PluginSchema.Proofs.Json.Reading
import PluginSchema.Proofs.Json.Record
import PluginSchema.Proofs.Notation.AttributeType
import PluginSchema.Proofs.Notation.Attribute
import PluginSchema.Proofs.Notation.RoundTrip
import PluginSchema.Proofs.Protobuf.Reading
import PluginSchema.Proofs.Protobuf.RoundTrip
import PluginSchema.Proofs.Conversion.Verdict
import PluginSchema.Proofs.Conversion.Negotiation
import PluginSchema.Proofs.Conversion.Itinerary
import PluginSchema.Proofs.Json.Whole
import PluginSchema.Proofs.Json.Leniency
import PluginSchema.Proofs.Json.LenientRecord
import PluginSchema.Proofs.Json.Broken
import PluginSchema.Proofs.Json.Locality
import PluginSchema.Proofs.Notation.Padded
import PluginSchema.Proofs.Notation.Placement
import PluginSchema.Proofs.Conversion.Location
import PluginSchema.Proofs.Conversion.Building
import PluginSchema.Proofs.Json.Yield
import PluginSchema.Proofs.Notation.Height
import PluginSchema.Proofs.Protobuf.Reach
import PluginSchema.Proofs.Protobuf.Order
import PluginSchema.Proofs.Conversion.Reports
import PluginSchema.Proofs.Log.PlainFilter
import PluginSchema.Proofs.Log.Cuts
import PluginSchema.Proofs.Log.FirstCall
import PluginSchema.Proofs.Notation.Listing
import PluginSchema.Proofs.Json.Arrangement
import PluginSchema.Proofs.Notation.Varied
import PluginSchema.Proofs.Notation.Steady
