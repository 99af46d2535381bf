import Sourcewright.Number.Binary64

/-!
# Shortest decimal digits

The decimal text of a floating point number holds as few digits as possible while
still denoting that number: among the decimals that round to the number, those
with the fewest digits are considered, and of these the one nearest to the number
is taken.

A finite number is the only one nearest to the reals strictly between its two
half-way points; the half-way points themselves round to it exactly if its
significand is even.  For one, two and up to seventeen digits, the two neighbours
of the number on the decimal grid with that many digits are tested against this
interval, using whole numbers only.
-/

namespace Sourcewright

/-- What to do when the two nearest decimals are equally near. -/
inductive TieRule where
  /-- Take the greater one. -/
  | up
  /-- Take the one whose last digit is even. -/
  | toEven
deriving DecidableEq

/-- A positive decimal: the digits of a whole number and the power of ten that its
first digit counts. -/
structure Decimal where
  digits : List Char
  exponent : Int
deriving DecidableEq

namespace Decimal

def digitsOf (value : Nat) : List Char :=
  (Nat.toDigits 10 value)

def dropTrailingZeros (digits : List Char) : List Char :=
  (digits.reverse.dropWhile (· == '0')).reverse

/-- The decimal `value * 10 ^ unit`. -/
def ofScaled (value : Nat) (unit : Int) : Decimal :=
  let digits := digitsOf value
  ⟨dropTrailingZeros digits, unit + (digits.length - 1)⟩

end Decimal

namespace Binary64

/-- The reals that round to a positive finite number, as whole numbers over a
common denominator. -/
structure RoundingInterval where
  lower : Nat
  value : Nat
  upper : Nat
  denominator : Nat
  /-- Whether the ends belong to the interval. -/
  closed : Bool

/-- The rounding interval of `significand * 2 ^ exponent`.  Below a power of two
the numbers lie twice as close, so the lower half-way point is nearer there. -/
def roundingInterval (significand : Nat) (exponent : Int) : RoundingInterval :=
  let scale := if exponent < 0 then 1 else Nat.pow 2 exponent.natAbs
  let denominator := if exponent < 0 then 4 * Nat.pow 2 exponent.natAbs else 4
  let atPower := significand == Nat.pow 2 52 && exponent != leastExponent
  { lower := (4 * significand - (if atPower then 1 else 2)) * scale
    value := 4 * significand * scale
    upper := (4 * significand + 2) * scale
    denominator := denominator
    closed := significand % 2 == 0 }

namespace RoundingInterval

/-- Whether `numerator / denominator` of a fraction lies in the interval. -/
def contains (interval : RoundingInterval) (numerator denominator : Nat) : Bool :=
  let scaled := numerator * interval.denominator
  let lower := interval.lower * denominator
  let upper := interval.upper * denominator
  if interval.closed then
    lower ≤ scaled && scaled ≤ upper
  else
    lower < scaled && scaled < upper

/-- The power of ten that the first digit of the value counts, searched downwards
from one that is too great. -/
def leadingExponent (interval : RoundingInterval) : Nat → Int → Int
  | 0, guess => guess
  | steps + 1, guess =>
    let reaches :=
      if guess < 0 then
        interval.denominator ≤ interval.value * Nat.pow 10 guess.natAbs
      else
        interval.denominator * Nat.pow 10 guess.natAbs ≤ interval.value
    if reaches then guess else leadingExponent interval steps (guess - 1)

/-- The multiple of `10 ^ unit` to write for the value, if one of the two
multiples next to it lies in the interval. -/
def nearestMultiple? (interval : RoundingInterval) (tie : TieRule) (unit : Int) :
    Option Nat :=
  -- One unit is `gridNumerator / gridDenominator`.
  let gridNumerator := if unit < 0 then 1 else Nat.pow 10 unit.natAbs
  let gridDenominator := if unit < 0 then Nat.pow 10 unit.natAbs else 1
  let dividend := interval.value * gridDenominator
  let divisor := interval.denominator * gridNumerator
  let below := dividend / divisor
  let above := below + 1
  let doubled := 2 * (dividend % divisor)
  let belowFits := interval.contains (below * gridNumerator) gridDenominator
  let aboveFits := interval.contains (above * gridNumerator) gridDenominator
  let preferBelow :=
    doubled < divisor || (doubled == divisor && tie == .toEven && below % 2 == 0)
  if belowFits && (preferBelow || !aboveFits) then
    some below
  else if aboveFits then
    some above
  else
    none

/-- Try grids with more and more digits until a multiple lies in the interval. -/
def search (interval : RoundingInterval) (tie : TieRule) (leading : Int) :
    (attempts digits : Nat) → Decimal
  | 0, _ => Decimal.ofScaled 0 0
  | attempts + 1, digits =>
    let unit := leading - (digits - 1)
    match interval.nearestMultiple? tie unit with
    | some multiple => Decimal.ofScaled multiple unit
    | none => search interval tie leading attempts (digits + 1)

end RoundingInterval

/-- The shortest decimal that rounds to `significand * 2 ^ exponent`.  Seventeen
digits always suffice. -/
def shortestDecimal (tie : TieRule) (significand : Nat) (exponent : Int) : Decimal :=
  let interval := roundingInterval significand exponent
  interval.search tie (interval.leadingExponent 640 309) 17 1

end Binary64

end Sourcewright
