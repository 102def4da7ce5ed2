import PluginSchema.Json.Scan

/-!
# Numbers

A number without fraction and exponent that fits 64 bits, with or without a sign, is an integer.
Any other is a binary floating point number, read by a plain rule: as many digits as fit 64 bits
are taken as a whole number, the others only count as powers of ten, and the product or quotient
with that power is rounded once more. So a long decimal may differ from the nearest float in its
last place.
-/

namespace PluginSchema.Json

/-- The value of a number in a document. -/
inductive Number where
  | int (value : Int)
  | float (value : Float)
  /-- A number beyond the greatest float. -/
  | tooLarge

namespace Number

/-- The parts of a written number; digits are the characters that stand for them. -/
structure Parts where
  negative : Bool
  whole : List Char
  fraction : List Char := []
  /-- A sign and digits, if there is an exponent. -/
  exponent : Option (Bool × List Char) := none

/-- The value of a digit. -/
def digit (c : Char) : Nat := c.toNat - '0'.toNat

/-- Take digits into a significand while it stays below 2⁶⁴; the others are left. -/
def absorb (significand : Nat) : List Char → Nat × List Char
  | [] => (significand, [])
  | c :: digits =>
    let next := significand * 10 + digit c
    if next < UInt64.size then absorb next digits else (significand, c :: digits)

/-- The whole number that digits write. -/
def ofDigits (digits : List Char) : Nat :=
  digits.foldl (fun n c => n * 10 + digit c) 0

/-- A power of ten, rounded to a float. -/
def powerOfTen (exponent : Nat) : Float := Float.ofScientific 1 false exponent

/-- Multiply by a power of ten, unless the result is beyond the greatest float. Very small
powers are taken in steps that a float can hold. -/
def scale (x : Float) (exponent : Int) : Option Float :=
  if exponent < -308 then
    if x == 0 then some x else scale (x / powerOfTen 308) (exponent + 308)
  else if exponent < 0 then some (x / powerOfTen exponent.natAbs)
  else if exponent ≤ 308 then
    let product := x * powerOfTen exponent.natAbs
    if product.isInf then none else some product
  else if x == 0 then some x
  else none
termination_by (-exponent).toNat

/-- The float with a sign, a significand and a power of ten. -/
def ofScientific (negative : Bool) (significand : Nat) (exponent : Int) : Number :=
  match scale (UInt64.ofNat significand).toFloat exponent with
  | some x => .float (if negative then -x else x)
  | none => .tooLarge

/-- The greatest exponent that counts; a greater one makes every number zero or too large. -/
def maxExponent : Nat := Nat.pow 2 31 - 1

/-- The value of a written number. -/
def ofParts (parts : Parts) : Number :=
  let (whole, beyond) := absorb 0 parts.whole
  if beyond.isEmpty && parts.fraction.isEmpty && parts.exponent.isNone then
    if !parts.negative then .int whole
    else if 0 < whole ∧ whole ≤ Nat.pow 2 63 then .int (-whole)
    else ofScientific true whole 0
  else
    let (significand, unused) := absorb whole parts.fraction
    let shift : Int := beyond.length - (parts.fraction.length - unused.length : Nat)
    match parts.exponent with
    | none => ofScientific parts.negative significand shift
    | some (negative, digits) =>
      let exponent := ofDigits digits
      if exponent > maxExponent then
        if significand ≠ 0 ∧ !negative then .tooLarge
        else ofScientific parts.negative 0 0
      else
        ofScientific parts.negative significand
          (shift + if negative then -(exponent : Int) else exponent)

/-- Scan the exponent that may follow the other parts of a number. -/
def scanExponent (parts : Parts) (text : List Char) : Scan Number :=
  match text with
  | c :: after =>
    if c = 'e' ∨ c = 'E' then
      let (negative, after) :=
        match after with
        | '+' :: after => (false, after)
        | '-' :: after => (true, after)
        | _ => (false, after)
      let (digits, rest) := after.span Char.isDigit
      if digits.isEmpty then .broken (lacking rest) .malformed
      else .done (ofParts { parts with exponent := some (negative, digits) }) rest
    else .done (ofParts parts) text
  | [] => .done (ofParts parts) []

/-- Scan a number: a whole part without leading zeros, a fraction and an exponent. -/
def scan (text : List Char) : Scan Number :=
  let (negative, text) :=
    match text with
    | '-' :: text => (true, text)
    | _ => (false, text)
  let (whole, text) := text.span Char.isDigit
  if whole.isEmpty then .broken (lacking text) .malformed
  else if whole.head? = some '0' ∧ whole.length > 1 then .broken .malformed .malformed
  else
    match text with
    | '.' :: text =>
      let (fraction, text) := text.span Char.isDigit
      if fraction.isEmpty then .broken (lacking text) .malformed
      else scanExponent { negative, whole, fraction } text
    | _ => scanExponent { negative, whole } text

end Number

end PluginSchema.Json
