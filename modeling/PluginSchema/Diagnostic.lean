/-!
# Diagnostics

What a plugin reports to its caller about a problem, for people to read.
-/

namespace PluginSchema

/-- Whether a problem stops the operation. -/
inductive Severity where
  | error
  | warning
  deriving DecidableEq

/-- A problem, in short and at length, and the dotted path of the attribute that has it. -/
structure Diagnostic where
  severity : Severity
  summary : String
  detail : Option String := none
  location : Option String := none
  deriving DecidableEq

namespace Diagnostic

/-- A problem that stops the operation. -/
def error (summary : String) : Diagnostic := { severity := .error, summary }

/-- A problem that does not stop the operation. -/
def warning (summary : String) : Diagnostic := { severity := .warning, summary }

/-- Explain the problem at length. -/
def withDetail (diagnostic : Diagnostic) (text : String) : Diagnostic :=
  { diagnostic with detail := some text }

/-- Say which attribute has the problem. -/
def withLocation (diagnostic : Diagnostic) (dotted : String) : Diagnostic :=
  { diagnostic with location := some dotted }

end Diagnostic

end PluginSchema
