namespace CodeFormatting.Decimal

/-! A binary64 number is a whole number of at most 53 binary digits times a power
of two, or infinite, or no number at all. A decimal text denotes the number
nearest to it; of two numbers equally near, the one with the even mantissa. -/

inductive Binary64
  | finite (negative : Bool) (mantissa : Nat) (exponent : Int)
  | infinite (negative : Bool)
  | notANumber
  deriving DecidableEq, Repr, Inhabited

namespace Binary64

def zero (negative : Bool) : Binary64 :=
  .finite negative 0 0

/-- The whole number nearest to a quotient, an exact half going to the even one. -/
def roundedQuotient (numerator denominator : Nat) : Nat :=
  let floor := numerator / denominator
  let remainder := numerator % denominator
  if 2 * remainder < denominator then floor
  else if denominator < 2 * remainder then floor + 1
  else if floor % 2 = 0 then floor else floor + 1

/-- The quotient of two whole numbers times a power of two, as a fraction. -/
def scaled (numerator denominator : Nat) (exponent : Int) : Nat × Nat :=
  if 0 ≤ exponent then (numerator, denominator * Nat.pow 2 exponent.toNat)
  else (numerator * Nat.pow 2 (-exponent).toNat, denominator)

/-- The power of two that leaves a quotient 53 binary digits, but never less than
the smallest power there is. -/
def leadingExponent (numerator denominator : Nat) : Int :=
  let guess : Int := (Nat.log2 numerator : Int) - (Nat.log2 denominator : Int) - 52
  let (high, low) := scaled numerator denominator guess
  let exponent := if high / low < Nat.pow 2 52 then guess - 1 else guess
  max exponent (-1074)

def ofQuotient (negative : Bool) (numerator denominator : Nat) : Binary64 :=
  if numerator = 0 then zero negative
  else
    let exponent := leadingExponent numerator denominator
    let (high, low) := scaled numerator denominator exponent
    let rounded := roundedQuotient high low
    let (mantissa, exponent) :=
      if rounded = Nat.pow 2 53 then (Nat.pow 2 52, exponent + 1) else (rounded, exponent)
    if mantissa = 0 then zero negative
    else if 971 < exponent then .infinite negative
    else .finite negative mantissa exponent

/-- The number nearest to `digits · 10 ^ exponent`. Exponents far outside the
range of the format are decided without computing the power. -/
def ofDecimal (negative : Bool) (digits : Nat) (exponent : Int) : Binary64 :=
  let size : Int := (Nat.log2 digits : Int) / 3 + exponent
  if digits = 0 then zero negative
  else if 400 < exponent + (Nat.log2 digits : Int) / 4 then .infinite negative
  else if size < -400 then zero negative
  else if 0 ≤ exponent then ofQuotient negative (digits * Nat.pow 10 exponent.toNat) 1
  else ofQuotient negative digits (Nat.pow 10 (-exponent).toNat)

end Binary64

end CodeFormatting.Decimal
