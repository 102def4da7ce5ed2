import PluginSchema.Log.Directive

/-!
# Filters

A filter is written as directives between commas; of two that are meant for the same, the later
counts. A record passes if the most particular of the directives that apply to it admits its
level, or if a directive that selects the span around it does: the particular ones are those
with the longest target, and among these those that ask for a field.
-/

namespace PluginSchema.Log

/-- A span as a filter sees it. All fields of spans hold whole numbers. -/
structure SpanOrigin where
  name : String
  target : String
  level : Level
  fields : List (String × Nat)

/-- The directives of a filter. -/
structure Filter where
  directives : List Directive

namespace Filter

/-- The texts of directives; empty ones are left out. -/
def pieces (text : String) : List (List Char) :=
  (text.toList.splitOn ',').filter (!·.isEmpty)

/-- The filter that a text writes, if each of its directives is well formed. -/
def parse (text : String) : Except Refusal Filter := do
  return ⟨← (pieces text).mapM Directive.parse⟩

/-- The directive that a text writes, if it is well formed. -/
def directive? (text : List Char) : Except Text.BadCut (Option Directive) :=
  match Directive.parse text with
  | .ok directive => .ok (some directive)
  | .error .malformed => .ok none
  | .error (.badCut cut) => .error cut

/-- The filter of the well formed directives of a text. If there is none, errors are let
through. -/
def parseLossy (text : String) : Except Text.BadCut Filter := do
  match (← (pieces text).mapM directive?).filterMap id with
  | [] => return ⟨[{ limit := ⟨some .error⟩ }]⟩
  | directives => return ⟨directives⟩

/-- The directives that no later one replaces. -/
def standing : List Directive → List Directive
  | [] => []
  | directive :: later =>
    if later.any directive.sameScope then standing later else directive :: standing later

/-- Whether the first of two directives for one target is less particular. -/
def isLessParticular (a b : Directive) : Bool :=
  a.target.length < b.target.length ||
    (a.target.length = b.target.length &&
      match a.field, b.field with
      | none, some _ => true
      | some a, some b => a.name < b.name
      | _, none => false)

/-- The limit of the most particular of some directives. -/
def decisive (directives : List Directive) : Limit :=
  let best : Option Directive := directives.foldl (fun best directive =>
    match best with
    | some other => if isLessParticular other directive then some directive else some other
    | none => some directive) none
  (best.map (·.limit)).getD .off

/-- The limit for records of a target with some fields. -/
def recordLimit (filter : Filter) (target : String) (fields : List String) : Limit :=
  decisive ((standing filter.directives).filter fun directive =>
    directive.isForRecords && directive.coversTarget target &&
      directive.field.all fun query => fields.contains (String.ofList query.name))

/-- The limit for spans of a target by themselves, of which no fields are asked. -/
def spanLimit (filter : Filter) (target : String) : Limit :=
  decisive ((standing filter.directives).filter fun directive =>
    directive.isForRecords && directive.coversTarget target)

/-- The directives that select a span. -/
def selecting (filter : Filter) (span : SpanOrigin) : List Directive :=
  (standing filter.directives).filter fun directive =>
    directive.isForSpans && directive.coversTarget span.target &&
      directive.span.all (String.ofList · = span.name) &&
      directive.field.all fun query =>
        span.fields.any fun (name, _) => String.ofList query.name = name

/-- The greatest of some limits. -/
def greatest (limits : List Limit) : Limit := limits.foldl Limit.max .off

/-- What could be let through: everything if the value of a field is asked for. -/
def ceiling (filter : Filter) : Limit :=
  if filter.directives.any Directive.asksValue then .all
  else greatest (filter.directives.map (·.limit))

/-- Whether a span is wanted, be it for the records within it. -/
def wants (filter : Filter) (span : SpanOrigin) : Bool :=
  !(filter.selecting span).isEmpty || (filter.spanLimit span.target).admits span.level

/-- Whether a directive that selects a span finds the value it wants in it. -/
def meets (span : SpanOrigin) (directive : Directive) : Bool :=
  directive.field.all fun query =>
    match query.wanted with
    | .any => true
    | .number value => span.fields.contains (String.ofList query.name, value)
    | .other => false

/-- The limit for records within a span that is open. -/
def limitWithin (filter : Filter) (span : SpanOrigin) : Limit :=
  greatest (((filter.selecting span).filter (meets span)).map (·.limit))

end Filter

end PluginSchema.Log
