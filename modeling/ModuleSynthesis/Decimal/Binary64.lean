/-!
# Binary numbers of 64 bits

The numbers of the binary interchange format of 64 bits: a mantissa of at most 53 bits times a
power of two, signed zeros and infinities, and the value that is no number. A decimal number is
read as the nearest of them, and as the one with the even mantissa when two are equally near.

* `Binary64`: a number of the format.
* `Binary64.nearest`: the mantissa and the exponent nearest to a quotient.
* `Binary64.ofDecimal`: the number that is nearest to a decimal one.
-/

namespace ModuleSynthesis

/-- A number of the binary format of 64 bits. -/
inductive Binary64 where
  /-- No number. -/
  | nan
  /-- An infinity. -/
  | infinite (negative : Bool)
  /-- A mantissa times two to the power of an exponent. -/
  | finite (negative : Bool) (mantissa : Nat) (exponent : Int)
deriving DecidableEq, Repr, Inhabited

namespace Binary64

/-- A quotient divided by two to the power of an exponent, as numerator and denominator. -/
def scaled (exponent : Int) (num den : Nat) : Nat × Nat :=
  (num * Nat.pow 2 (-exponent).toNat, den * Nat.pow 2 exponent.toNat)

/-- A quotient rounded to a whole number, halves to the even one. -/
def roundHalfEven (num den : Nat) : Nat :=
  let down := num / den
  let rest := 2 * (num % den)
  if rest < den ∨ (rest = den ∧ down % 2 = 0) then down else down + 1

/-- The least exponent whose mantissas of 53 bits reach a quotient that is not zero; the exponents
of the format start at -1074. -/
def exponentOf (num den : Nat) : Int :=
  let guess : Int := (Nat.log2 num : Int) - (Nat.log2 den : Int) - 53
  let (n, d) := scaled guess num den
  max (-1074) (if n < d * Nat.pow 2 53 then guess else guess + 1)

/-- The mantissa and the exponent nearest to a quotient that is not zero. -/
def nearest (num den : Nat) : Nat × Int :=
  let exponent := exponentOf num den
  let (n, d) := scaled exponent num den
  let mantissa := roundHalfEven n d
  if mantissa = Nat.pow 2 53 then (Nat.pow 2 52, exponent + 1) else (mantissa, exponent)

/-- The number nearest to a quotient; what would need an exponent beyond 971 is infinite. -/
def ofQuotient (negative : Bool) (num den : Nat) : Binary64 :=
  let (mantissa, exponent) := nearest num den
  if 971 < exponent then .infinite negative else .finite negative mantissa exponent

/-- The number nearest to a whole number times a power of ten. `places` is the number of digits of
the whole number: where it tells that the number is far too large or too small, nothing is
computed. -/
def ofDecimal (negative : Bool) (whole : Nat) (places : Nat) (power : Int) : Binary64 :=
  if whole = 0 ∨ (places : Int) + power < -330 then .finite negative 0 (-1074)
  else if 310 < (places : Int) + power then .infinite negative
  else ofQuotient negative (whole * Nat.pow 10 power.toNat) (Nat.pow 10 (-power).toNat)

end Binary64

end ModuleSynthesis
