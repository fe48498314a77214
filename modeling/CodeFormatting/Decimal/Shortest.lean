import CodeFormatting.Decimal.Binary64
namespace CodeFormatting.Decimal

/-! A number prints with the fewest decimal digits that read back as the same
number, and of those with the digits nearest to it. The candidates with a given
count of digits are the two neighbours of the number on the decimal grid. -/

/-- The value `digits · 10 ^ exponent`. -/
structure Digits where
  digits : Nat
  exponent : Int
  deriving DecidableEq, Repr

/-- A number as a fraction, with the ends of the interval of reals that round
to it, all over one denominator. -/
structure Interval where
  low : Nat
  value : Nat
  high : Nat
  denominator : Nat
  closed : Bool

namespace Interval

/-- The interval of `mantissa · 2 ^ exponent`: half a step up and half a step down,
or a quarter step down where the next smaller number is nearer. -/
def ofFinite (mantissa : Nat) (exponent : Int) : Interval :=
  let unit : Int := exponent - 2
  let below := if mantissa = Nat.pow 2 52 ∧ -1074 < exponent then 1 else 2
  let factor := if 0 ≤ unit then Nat.pow 2 unit.toNat else 1
  let denominator := if 0 ≤ unit then 1 else Nat.pow 2 (-unit).toNat
  { low := (4 * mantissa - below) * factor
    value := 4 * mantissa * factor
    high := (4 * mantissa + 2) * factor
    denominator := denominator
    closed := mantissa % 2 = 0 }

/-- Whether `digits · 10 ^ exponent` lies in the interval. -/
def contains (interval : Interval) (digits : Nat) (exponent : Int) : Bool :=
  let scale := if 0 ≤ exponent then 1 else Nat.pow 10 (-exponent).toNat
  let point := (if 0 ≤ exponent then digits * Nat.pow 10 exponent.toNat else digits) *
    interval.denominator
  if interval.closed then
    interval.low * scale ≤ point && point ≤ interval.high * scale
  else interval.low * scale < point && point < interval.high * scale

/-- The two neighbours of the value on the grid of multiples of `10 ^ exponent`,
the nearer one first. -/
def neighbours (interval : Interval) (exponent : Int) : List Nat :=
  let numerator := if 0 ≤ exponent then interval.value
    else interval.value * Nat.pow 10 (-exponent).toNat
  let denominator := if 0 ≤ exponent then interval.denominator * Nat.pow 10 exponent.toNat
    else interval.denominator
  let floor := numerator / denominator
  let remainder := numerator % denominator
  if 2 * remainder < denominator then [floor, floor + 1]
  else if denominator < 2 * remainder then [floor + 1, floor]
  else if floor % 2 = 0 then [floor, floor + 1] else [floor + 1, floor]

/-- The count of decimal digits before the point, negative for zeros after it. -/
def magnitude (interval : Interval) : Int :=
  let guess : Int :=
    ((Nat.log2 interval.value : Int) - (Nat.log2 interval.denominator : Int)) * 30103 / 100000
  let below (power : Int) : Bool :=
    if 0 ≤ power then interval.value < interval.denominator * Nat.pow 10 power.toNat
    else interval.value * Nat.pow 10 (-power).toNat < interval.denominator
  if below (guess - 1) then guess - 1
  else if below guess then guess
  else if below (guess + 1) then guess + 1
  else guess + 2

def candidate? (interval : Interval) (exponent : Int) : Option Digits :=
  (interval.neighbours exponent).find? (interval.contains · exponent) |>.map (⟨·, exponent⟩)

/-- Drops the zeros at the end of the digits. -/
def withoutTrailingZeros : Nat → Digits → Digits
  | 0, value => value
  | fuel + 1, ⟨digits, exponent⟩ =>
    if digits ≠ 0 ∧ digits % 10 = 0 then
      withoutTrailingZeros fuel ⟨digits / 10, exponent + 1⟩
    else ⟨digits, exponent⟩

def shortest (interval : Interval) : Digits :=
  let magnitude := interval.magnitude
  let counts := (List.range 17).map (fun (count : Nat) => magnitude - (count : Int) - 1)
  match counts.findSome? interval.candidate? with
  | some found => withoutTrailingZeros 20 found
  | none => ⟨(interval.neighbours (magnitude - 17)).headD 0, magnitude - 17⟩

end Interval

/-- The fewest digits that denote a positive finite number. -/
def shortestDigits (mantissa : Nat) (exponent : Int) : Digits :=
  if mantissa = 0 then ⟨0, 0⟩ else (Interval.ofFinite mantissa exponent).shortest

/-- Digits with a point after `whole` of them, zeros filling the gaps. -/
def positional (digits : String) (whole : Int) : String × String :=
  let characters := digits.toList
  if whole ≤ 0 then
    ("0", String.ofList (List.replicate (-whole).toNat '0' ++ characters))
  else
    let count := whole.toNat
    (String.ofList (characters.take count ++ List.replicate (count - characters.length) '0'),
      String.ofList (characters.drop count))

/-- Every digit written out, with a point and a fraction also for whole numbers. -/
def Binary64.plainText : Binary64 → String
  | .notANumber => "NaN"
  | .infinite negative => (if negative then "-" else "") ++ "inf"
  | .finite negative mantissa exponent =>
    let value := shortestDigits mantissa exponent
    let digits := toString value.digits
    let (whole, fraction) := positional digits (value.exponent + digits.length)
    (if negative then "-" else "") ++ whole ++ "." ++ (if fraction = "" then "0" else fraction)

/-- An exponent behind its mark, with a sign also where it is positive. -/
def exponentText (exponent : Int) : String :=
  (if 0 < exponent then "e+" else "e") ++ toString exponent

/-- As the plain text between a hundred-thousandth and ten quadrillion, and with
an exponent outside of it. -/
def Binary64.compactText : Binary64 → String
  | .notANumber => "null"
  | .infinite _ => "null"
  | .finite negative mantissa exponent =>
    let value := shortestDigits mantissa exponent
    let digits := toString value.digits
    let whole := value.exponent + digits.length
    if mantissa = 0 ∨ (-5 < whole ∧ whole ≤ 16) then
      Binary64.plainText (.finite negative mantissa exponent)
    else
      let fraction := String.ofList (digits.toList.drop 1)
      (if negative then "-" else "") ++ String.ofList (digits.toList.take 1) ++
        (if fraction = "" then "" else "." ++ fraction) ++ exponentText (whole - 1)

end CodeFormatting.Decimal
