import PluginSchema.Decimal.Shortest
import PluginSchema.Json.Node
import PluginSchema.Text.Quoted

/-!
# Why a document cannot be read

Either the text is no JSON, or it is and holds something else than what is read from it. Only
the second kind has a message.
-/

namespace PluginSchema.Json

/-- What a document holds in the place of something else. -/
inductive Found where
  | null
  | bool (value : Bool)
  | int (value : Int)
  | float (value : Float)
  | string (text : String)
  | sequence
  | map
  /-- The bare name of a variant. -/
  | bareVariant

namespace Found

/-- The words for what was found. -/
def describe : Found → String
  | null => "null"
  | bool value => "boolean `" ++ toString value ++ "`"
  | int value => "integer `" ++ toString value ++ "`"
  | float value => "floating point `" ++ Decimal.floatText value ++ "`"
  | string text => "string " ++ Text.quoted text
  | sequence => "sequence"
  | map => "map"
  | bareVariant => "unit variant"

end Found

/-- Why a value does not fit what is read from it. -/
inductive Misfit where
  | wrongType (found : Found) (expected : String)
  | outOfRange (value : Int) (expected : String)
  /-- An object that should name one variant does not have one member. -/
  | notOneVariant
  | unknownVariant (name : String) (known : List String)
  | missingField (name : String)
  | duplicateField (name : String)
  | wrongLength (length : Nat) (expected : String)

namespace Misfit

/-- The known names as a choice. -/
def choice : List String → String
  | [first, second] => "`" ++ first ++ "` or `" ++ second ++ "`"
  | names => "one of " ++ String.intercalate ", " (names.map fun name => "`" ++ name ++ "`")

/-- The words for a misfit. -/
def message : Misfit → String
  | wrongType found expected => "invalid type: " ++ found.describe ++ ", expected " ++ expected
  | outOfRange value expected =>
    "invalid value: " ++ (Found.int value).describe ++ ", expected " ++ expected
  | notOneVariant => "invalid value: map, expected map with a single key"
  | unknownVariant name known => "unknown variant `" ++ name ++ "`, expected " ++ choice known
  | missingField name => "missing field `" ++ name ++ "`"
  | duplicateField name => "duplicate field `" ++ name ++ "`"
  | wrongLength length expected =>
    "invalid length " ++ toString length ++ ", expected " ++ expected

end Misfit

/-- Why a document cannot be read. -/
inductive ReadError where
  | broken (fault : Fault)
  | unfit (misfit : Misfit)

/-- The result of reading. -/
abbrev Reading (α : Type) := Except ReadError α

/-- Stop where the text is no JSON. -/
def Reading.broken {α : Type} (fault : Fault) : Reading α := .error (.broken fault)

/-- Stop at a value that does not fit. -/
def Reading.unfit {α : Type} (misfit : Misfit) : Reading α := .error (.unfit misfit)

/-- What a node holds, as far as a reader sees that wants something else. It looks at the value
of a string or number and not into arrays and objects. -/
def Node.found : Node → Reading Found
  | null => .ok .null
  | bool value => .ok (.bool value)
  | num (.int value) => .ok (.int value)
  | num (.float value) => .ok (.float value)
  | num .tooLarge => .broken .malformed
  | str (some text) => .ok (.string text)
  | str none => .broken .malformed
  | arr _ => .ok .sequence
  | obj _ => .ok .map
  | cut gap => .broken gap.strict

/-- Refuse a node in place of what was expected. -/
def Node.mismatch {α : Type} (node : Node) (expected : String) : Reading α := do
  .unfit (.wrongType (← node.found) expected)

end PluginSchema.Json
