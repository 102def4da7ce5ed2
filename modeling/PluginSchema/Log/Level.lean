/-!
# Levels

How important a record of the log is. A limit lets through what is at least as important as it
says, or nothing.
-/

namespace PluginSchema.Log

/-- The importance of a record, the most important first. -/
inductive Level where
  | error
  | warn
  | info
  | debug
  | trace
  deriving DecidableEq

namespace Level

/-- The number of a level; the less important, the greater. -/
def rank : Level → Nat
  | error => 1
  | warn => 2
  | info => 3
  | debug => 4
  | trace => 5

/-- The name of a level in a log. -/
def name : Level → String
  | error => "ERROR"
  | warn => "WARN"
  | info => "INFO"
  | debug => "DEBUG"
  | trace => "TRACE"

end Level

/-- The least important level that is let through, or none. -/
structure Limit where
  least : Option Level
  deriving DecidableEq

namespace Limit

/-- Nothing is let through. -/
def off : Limit := ⟨none⟩

/-- Everything is let through. -/
def all : Limit := ⟨some .trace⟩

/-- Whether records of a level are let through. -/
def admits (limit : Limit) (level : Level) : Bool :=
  limit.least.any fun least => level.rank ≤ least.rank

/-- The limit that lets through what one of two does. -/
def max (a b : Limit) : Limit :=
  match a.least, b.least with
  | none, _ => b
  | some _, none => a
  | some x, some y => if x.rank ≤ y.rank then b else a

/-- The limits by their numbers. -/
def numbered : List Limit :=
  [off, ⟨some .error⟩, ⟨some .warn⟩, ⟨some .info⟩, ⟨some .debug⟩, all]

/-- The limits by their names in lower case. -/
def named : List (String × Limit) := [
  ("off", off), ("error", ⟨some .error⟩), ("warn", ⟨some .warn⟩),
  ("info", ⟨some .info⟩), ("debug", ⟨some .debug⟩), ("trace", all)]

/-- The number that a text writes in decimal digits, perhaps behind a plus sign. -/
def number? (text : List Char) : Option Nat :=
  let digits :=
    match text with
    | '+' :: digits => digits
    | _ => text
  if digits.isEmpty || !digits.all Char.isDigit then none
  else some (digits.foldl (fun n c => n * 10 + (c.toNat - '0'.toNat)) 0)

/-- The limit that a text names, in any case of letters, or numbers. -/
def ofText? (text : List Char) : Option Limit :=
  match number? text with
  | some n => numbered[n]?
  | none => named.lookup (String.ofList (text.map Char.toLower))

end Limit

end PluginSchema.Log
