import PluginSchema.Log.Record

/-!
# Setting up the log

A process sets up its log once: the first call decides the filter, and later calls are refused.
The filter is the one that the environment gives, if it gives a well formed one, and else the
default of the first call. A call that finds no filter, since a text cannot be cut into parts,
fails whatever was called before, and counts for nothing.

A refused call leaves the filter alone, but the last one widens what is looked at by what its own
filter could let through. No record passes for that, except in a span that the filter wants and
that is opened only now.
-/

namespace PluginSchema.Log

open Conversion (Trace)

/-- A call that sets up the log. -/
inductive Call where
  /-- Set up the default filter, and say whether it was done. -/
  | attempt
  /-- Set up the default filter, or fail. -/
  | standard
  /-- Set up a given filter as default, or fail. -/
  | withDefault (text : String)

/-- The text of the default filter of a call. -/
def Call.default : Call → String
  | attempt | standard => "info"
  | withDefault text => text

/-- How a call that must succeed fails. -/
def alreadySet : String :=
  "failed to initialize logging: a global default trace dispatcher has already been set"

/-- How a call ends. -/
inductive Outcome where
  | done
  /-- The log is set up already. -/
  | refused
  /-- A directive cannot be cut into its parts, and nothing is set up. -/
  | failed (cut : Text.BadCut)
  deriving DecidableEq

/-- What a caller sees of a call. -/
inductive Report where
  /-- An answer whether the log was set up. -/
  | answered (done : Bool)
  | returned
  | panicked (message : String)
  deriving DecidableEq

/-- What the caller of a call sees of how it ends. -/
def Call.report : Call → Outcome → Report
  | _, .failed cut => .panicked cut.message
  | attempt, .done => .answered true
  | attempt, .refused => .answered false
  | _, .done => .returned
  | _, .refused => .panicked alreadySet

/-- The filter that a call asks for. -/
def Filter.choose (environment : Option String) (default : String) :
    Except Text.BadCut Filter :=
  match environment.map Filter.parse with
  | some (.ok filter) => .ok filter
  | some (.error (.badCut cut)) => .error cut
  | some (.error .malformed) | none => Filter.parseLossy default

/-- How a call ends, and the log after it. -/
def Call.run (environment : Option String) (current : Option Logger) (call : Call) :
    Outcome × Option Logger :=
  match Filter.choose environment call.default, current with
  | .error cut, _ => (.failed cut, current)
  | .ok filter, none => (.done, some { filter })
  | .ok filter, some logger =>
    let ceiling := Limit.max logger.filter.ceiling filter.ceiling
    (.refused, some { logger with ceiling })

/-- How the calls of a sequence end, and the log after them. -/
def setUp (environment : Option String) :
    Option Logger → List Call → List Outcome × Option Logger
  | current, [] => ([], current)
  | current, call :: calls =>
    let (outcome, logger) := call.run environment current
    let (others, last) := setUp environment logger calls
    (outcome :: others, last)

/-- What the callers of a sequence of calls see. -/
def reports (environment : Option String) (calls : List Call) : List Report :=
  calls.zipWith Call.report (setUp environment none calls).1

/-- The filter in effect after a sequence of calls. -/
def filterAfter (environment : Option String) (calls : List Call) : Option Filter :=
  (setUp environment none calls).2.map (·.filter)

/-- The lines that are written of a conversion after a sequence of calls. -/
def linesAfter (environment : Option String) (calls : List Call) (trace : Trace) : List String :=
  match (setUp environment none calls).2 with
  | some logger => logger.lines trace
  | none => []

end PluginSchema.Log
