import ModuleSynthesis.Decimal.Binary64

/-!
# Shortest decimals

A binary number is written with the fewest decimal digits that read back to it; of the numbers
with so many digits the nearest one is taken, and the larger one of two that are equally near.

* `Binary64.readsBack`: whether a decimal number reads back to a mantissa and an exponent.
* `Binary64.shortest?`: the fewest digits that do.
* `Binary64.written`: a number without a power of ten, and with a point.
-/

namespace ModuleSynthesis.Binary64

/-- The quarter of the unit of a mantissa, as numerator and denominator. -/
def quarter (exponent : Int) : Nat × Nat :=
  scaled (2 - exponent) 1 1

/-- The distance down to the numbers that read as the next smaller one, in quarters of the unit:
half a unit, but less where the unit changes. -/
def gapBelow (mantissa : Nat) (exponent : Int) : Nat :=
  if mantissa = Nat.pow 2 52 ∧ -1074 < exponent then 1 else 2

/-- Whether a whole number times a power of ten reads back to a mantissa and an exponent: it lies
between the midpoints to the neighbours, which themselves read as the even mantissa. -/
def readsBack (mantissa : Nat) (exponent : Int) (whole : Nat) (power : Int) : Bool :=
  let (num, den) := quarter exponent
  let value := whole * Nat.pow 10 power.toNat * den
  let unit := num * Nat.pow 10 (-power).toNat
  let low := (4 * mantissa - gapBelow mantissa exponent) * unit
  let high := (4 * mantissa + 2) * unit
  if mantissa % 2 = 0 then low ≤ value && value ≤ high else low < value && value < high

/-- The nearer one of the two multiples of a power of ten around a number, if one of them reads
back to it. -/
def candidate? (mantissa : Nat) (exponent power : Int) : Option Nat :=
  let (num, den) := scaled (-exponent) mantissa 1
  let n := num * Nat.pow 10 (-power).toNat
  let d := den * Nat.pow 10 power.toNat
  let down := n / d
  let nearDown := 2 * (n % d) < d
  match readsBack mantissa exponent down power,
    readsBack mantissa exponent (down + 1) power with
  | true, true => some (if nearDown then down else down + 1)
  | true, false => some down
  | false, true => some (down + 1)
  | false, false => none

/-- The fewest digits that read back to a mantissa and an exponent, and the power of ten that they
are multiplied by: the largest power of ten with a multiple that reads back. -/
def shortest? (mantissa : Nat) (exponent : Int) : Option (Nat × Int) :=
  if mantissa = 0 then some (0, 0)
  else (List.range 1400).findSome? fun (i : Nat) =>
    let power : Int := 309 - i
    (candidate? mantissa exponent power).map (·, power)

/-- Digits times a power of ten, without the power: with zeros behind them, or with a point among
or before them. -/
def positional (digits : List Char) (power : Int) : List Char :=
  let whole := digits ++ List.replicate power.toNat '0'
  let places := (-power).toNat
  let padded := List.replicate (places + 1 - whole.length) '0' ++ whole
  padded.take (padded.length - places) ++ '.' ::
    (if places = 0 then ['0'] else padded.drop (padded.length - places))

/-- A number as it is written. -/
def written : Binary64 → String
  | .nan => "NaN"
  | .infinite negative => if negative then "-inf" else "inf"
  | .finite negative mantissa exponent =>
    let digits := match shortest? mantissa exponent with
      | some (whole, power) => positional (Nat.toDigits 10 whole) power
      | none => ['0', '.', '0']
    String.ofList (if negative then '-' :: digits else digits)

end ModuleSynthesis.Binary64
