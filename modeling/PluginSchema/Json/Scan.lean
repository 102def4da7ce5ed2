/-!
# Scanning JSON text

A reader of JSON stops at the first place where the text is no JSON, and says whether the text
ended there too early or goes on wrongly. Both answers can depend on the reader: one that wants
the value of a string or a number looks closer than one that passes over it.
-/

namespace PluginSchema.Json

/-- How a text fails to be JSON. -/
inductive Fault where
  /-- The text ends before the value does. -/
  | ended
  /-- The text goes on with something that cannot stand there. -/
  | malformed
  deriving DecidableEq

/-- What scanning the start of a text gives: a value and the rest of the text, or the faults for
a reader that wants the value and for one that passes over it. -/
inductive Scan (α : Type) where
  | done (value : α) (rest : List Char)
  | broken (strict loose : Fault)

/-- The characters that may stand between the parts of a document. -/
def isBlank (c : Char) : Bool :=
  c == ' ' || c == '\n' || c == '\t' || c == '\r'

/-- The text without the blanks that it begins with. -/
def skipBlanks (text : List Char) : List Char := text.dropWhile isBlank

/-- The fault of a text that lacks what should begin here. -/
def lacking : List Char → Fault
  | [] => .ended
  | _ :: _ => .malformed

/-- The value of a hexadecimal digit. -/
def hexDigit? (c : Char) : Option Nat :=
  if '0' ≤ c ∧ c ≤ '9' then some (c.toNat - '0'.toNat)
  else if 'a' ≤ c ∧ c ≤ 'f' then some (c.toNat - 'a'.toNat + 10)
  else if 'A' ≤ c ∧ c ≤ 'F' then some (c.toNat - 'A'.toNat + 10)
  else none

end PluginSchema.Json
