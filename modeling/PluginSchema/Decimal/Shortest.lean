/-!
# Shortest decimals

A binary floating point number stands for all reals that round to it. Its shortest decimal is
the one with the fewest digits among these, and of several such the nearest to the number.
Everything is computed on whole numbers: a number is `mantissa * 2 ^ exponent`, and the bounds
of its interval are quarters of a step away from it.
-/

namespace PluginSchema.Decimal

/-- A positive decimal `digits * 10 ^ exponent`. -/
structure Scientific where
  digits : Nat
  exponent : Int

/-- A positive binary number `mantissa * 2 ^ exponent`. The next smaller number is half as far
away as the next greater one where `atPower` holds. -/
structure Binary where
  mantissa : Nat
  exponent : Int
  atPower : Bool

/-- The absolute value of a finite float. -/
def Binary.ofFloat (x : Float) : Binary :=
  let bits := x.toBits.toNat
  let fraction : Nat := bits % Nat.pow 2 52
  let biased : Nat := bits / Nat.pow 2 52 % Nat.pow 2 11
  if biased = 0 then ⟨fraction, -1074, false⟩
  else ⟨Nat.pow 2 52 + fraction, biased - 1075, fraction = 0 && 1 < biased⟩

/-- The quotient of two powers as a numerator and a denominator. -/
def power (base : Nat) (exponent : Int) : Nat × Nat :=
  (base.pow exponent.toNat, base.pow (-exponent).toNat)

/-- The decimal of a given exponent in the interval of a number that is nearest to it. -/
def Binary.onGrid (x : Binary) (exponent : Int) : Option Scientific :=
  let (doubled, halved) := power 2 (x.exponent - 2)
  let (raised, lowered) := power 10 exponent
  -- `quarters * scale` and `digits * unit` compare quarters of a step with points of the grid.
  let scale := doubled * lowered
  let unit := raised * halved
  let value := 4 * x.mantissa * scale
  let low := (4 * x.mantissa - if x.atPower then 1 else 2) * scale
  let high := (4 * x.mantissa + 2) * scale
  let inside (digits : Nat) : Bool :=
    if x.mantissa % 2 = 0 then low ≤ digits * unit && digits * unit ≤ high
    else low < digits * unit && digits * unit < high
  let below := value / unit
  let gap := value % unit
  match inside below, inside (below + 1) with
  | true, true =>
    if 2 * gap < unit || (2 * gap = unit && below % 2 = 0) then some ⟨below, exponent⟩
    else some ⟨below + 1, exponent⟩
  | true, false => some ⟨below, exponent⟩
  | false, true => some ⟨below + 1, exponent⟩
  | false, false => none

/-- The shortest decimal of a positive number: the first that is found from the greatest power
of ten of any float down to the least. -/
def Binary.shortest (x : Binary) : Scientific :=
  match (List.range 640).findSome? fun (step : Nat) => x.onGrid (309 - step) with
  | some decimal => decimal
  | none => ⟨0, 0⟩

/-- The digits of a decimal, with a point before its last digits or an exponent: numbers from
`10 ^ -5` up to `10 ^ 16` are written in full, with at least one digit behind the point. -/
def Scientific.text (x : Scientific) : String :=
  let digits := Nat.toDigits 10 x.digits
  let leading : Int := x.exponent + digits.length - 1
  let zeros (n : Int) : List Char := List.replicate n.toNat '0'
  String.ofList <|
    if -5 ≤ leading && leading ≤ 15 then
      if 0 ≤ x.exponent then digits ++ zeros x.exponent ++ ['.', '0']
      else if 0 ≤ leading then
        digits.take (leading + 1).toNat ++ ['.'] ++ digits.drop (leading + 1).toNat
      else ['0', '.'] ++ zeros (-leading - 1) ++ digits
    else
      let fraction := digits.drop 1
      digits.take 1 ++ (if fraction.isEmpty then [] else '.' :: fraction)
        ++ ['e', if leading < 0 then '-' else '+'] ++ Nat.toDigits 10 leading.natAbs

/-- The text of a finite float. -/
def floatText (x : Float) : String :=
  let sign := if x.toBits.toNat < Nat.pow 2 63 then "" else "-"
  let binary := Binary.ofFloat x
  if binary.mantissa = 0 then sign ++ "0.0" else sign ++ binary.shortest.text

end PluginSchema.Decimal
