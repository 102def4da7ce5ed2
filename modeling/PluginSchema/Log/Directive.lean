import PluginSchema.Log.Level
import PluginSchema.Log.Pattern.Reader
import PluginSchema.Text.Cut
import PluginSchema.Text.Space

/-!
# Directives

A directive limits what is logged. It may be meant for targets that begin with a text, for spans
of a name, and for a field and its value: `target[span{field=value}]=limit`, of which each part
may be missing. A directive without a limit lets everything through.

The places of the parts are found in the text without the spaces around it, and the parts are then
cut from the text with the spaces. So they are the parts that were found only where no space
leads, and with leading spaces a cut may be a bad one.
-/

namespace PluginSchema.Log

/-- What a directive wants of the value of a field. -/
inductive Wanted where
  /-- Any value. -/
  | any
  /-- A whole number. -/
  | number (value : Nat)
  /-- A truth value, a fraction, a negative number, or a text that fits a pattern. -/
  | other
  deriving DecidableEq

/-- A field that a directive asks for. -/
structure FieldQuery where
  name : List Char
  wanted : Wanted
  deriving DecidableEq

/-- A limit and what it is meant for. -/
structure Directive where
  /-- What the targets begin with; the empty text stands for all targets. -/
  target : List Char := []
  /-- The name of the spans. -/
  span : Option (List Char) := none
  field : Option FieldQuery := none
  limit : Limit
  deriving DecidableEq

/-- Whether a text is written like a number that may have a sign, a fraction and an exponent. -/
def isNumeral (text : List Char) : Bool :=
  let unsigned (text : List Char) : List Char :=
    match text with
    | '+' :: rest | '-' :: rest => rest
    | _ => text
  let body := unsigned text
  let word := String.ofList (body.map Char.toLower)
  let whole := body.takeWhile Char.isDigit
  let (fraction, rest) :=
    match body.drop whole.length with
    | '.' :: rest => (rest.takeWhile Char.isDigit, rest.dropWhile Char.isDigit)
    | rest => ([], rest)
  let isExponent : List Char → Bool
    | [] => true
    | e :: rest =>
      (e = 'e' || e = 'E') && !(unsigned rest).isEmpty && (unsigned rest).all Char.isDigit
  ["inf", "infinity", "nan"].contains word ||
    (!(whole ++ fraction).isEmpty && isExponent rest)

/-- What a text wants of a value. -/
def Wanted.parse? (text : List Char) : Option Wanted :=
  match Limit.number? text with
  | some value => some (if value < UInt64.size then .number value else .other)
  | none => if isNumeral text || Pattern.isWellFormed text then some .other else none

/-- The query that a text writes. A second equals sign ends the value, and what follows it does
not count. -/
def FieldQuery.parse? (text : List Char) : Option FieldQuery :=
  let name := text.takeWhile (· ≠ '=')
  match text.drop name.length with
  | [] => if name.isEmpty then none else some ⟨name, .any⟩
  | _ :: value => (Wanted.parse? (value.takeWhile (· ≠ '='))).map (⟨name, ·⟩)

/-- Why a text writes no directive. -/
inductive Refusal where
  | malformed
  /-- The text cannot be cut into its parts. -/
  | badCut (cut : Text.BadCut)

/-- What is required of a text, which is malformed without it. -/
def Refusal.require {α : Type} : Option α → Except Refusal α
  | some value => .ok value
  | none => .error .malformed

/-- The part of a text between two places. -/
def Refusal.part (text : List Char) (start stop : Nat) : Except Refusal (List Char) :=
  (Text.part text start stop).mapError .badCut

namespace Directive

/-- Whether the target or limit that a directive begins with may begin with a character. -/
def canBegin (c : Char) : Bool :=
  c == '-' || c == ':' || c == '_' || Text.isAlphanumeric c

/-- The directive whose limit begins at a place. -/
def parseLimit (text : List Char) (directive : Directive) (start : Nat) :
    Except Refusal Directive := do
  match ← (Text.partFrom text start).mapError Refusal.badCut with
  | [] => return directive
  | limit => return { directive with limit := ← Refusal.require (Limit.ofText? limit) }

/-- The directive behind the bracket that closes its span. -/
def parseAfterSpan (text : List Char) (directive : Directive) (place : Nat) :
    List Char → Except Refusal Directive
  | [] => .ok directive
  | '=' :: _ => parseLimit text directive (place + 1)
  | _ => .error .malformed

/-- The directive behind the brace that opens its query. -/
def parseQuery (text : List Char) (directive : Directive) (place : Nat) (rest : List Char) :
    Except Refusal Directive := do
  let query := rest.takeWhile (· ≠ '\x7d')
  let queryEnd := place + Text.byteLength query
  match rest.drop query.length with
  | [] => .error .malformed
  | _ :: rest =>
    let query ← Refusal.part text place queryEnd
    let field ← Refusal.require (FieldQuery.parse? query)
    match rest with
    | ']' :: rest => parseAfterSpan text { directive with field } (queryEnd + 2) rest
    | _ => .error .malformed

/-- The directive behind the bracket that opens its span. -/
def parseSpan (text target : List Char) (place : Nat) (rest : List Char) :
    Except Refusal Directive := do
  let name := rest.takeWhile fun c => c ≠ ']' ∧ c ≠ '\x7b'
  let nameEnd := place + Text.byteLength name
  match rest.drop name.length with
  | [] => .error .malformed
  | c :: rest =>
    let span ← Refusal.part text place nameEnd
    if c = ']' then
      parseAfterSpan text { target, span := some span, limit := .all } (nameEnd + 1) rest
    else
      let span := if span.isEmpty then none else some span
      parseQuery text { target, span, limit := .all } (nameEnd + 1) rest

/-- The directive that a text writes. -/
def parse (text : List Char) : Except Refusal Directive := do
  let trimmed := Text.trim text
  match trimmed with
  | [] => .error .malformed
  | '[' :: rest => parseSpan text [] 1 rest
  | c :: _ =>
    if !canBegin c then .error .malformed
    let name := trimmed.takeWhile fun c => c ≠ '=' ∧ c ≠ '['
    let nameEnd := Text.byteLength name
    match trimmed.drop name.length with
    | [] =>
      match Limit.ofText? text with
      | some limit => return { limit }
      | none => return { target := text, limit := .all }
    | c :: rest =>
      let target ← Refusal.part text 0 nameEnd
      if c = '[' then parseSpan text target (nameEnd + 1) rest
      else parseLimit text { target, limit := .all } (nameEnd + 1)

/-- Whether a directive is meant for a target. -/
def coversTarget (directive : Directive) (target : String) : Bool :=
  directive.target.isPrefixOf target.toList

/-- Whether a directive asks for the value of a field. -/
def asksValue (directive : Directive) : Bool :=
  directive.field.any (·.wanted ≠ .any)

/-- Whether a directive applies to spans and to the records within them. -/
def isForSpans (directive : Directive) : Bool :=
  directive.span.isSome || directive.field.isSome

/-- Whether a directive applies to records and spans by themselves. -/
def isForRecords (directive : Directive) : Bool :=
  directive.span.isNone && !directive.asksValue

/-- Whether two directives are meant for the same. -/
def sameScope (a b : Directive) : Bool :=
  a.target = b.target && a.span = b.span && a.field = b.field

end Directive

end PluginSchema.Log
