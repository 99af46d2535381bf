/-!
# Binary floating point numbers

A floating point constant is kept as the 64 bits of its binary interchange form.
Two constants are the same exactly if their bits are, so trees that hold them have
an ordinary equality.

Arithmetic is done on exact rationals: a finite number is a whole number times a
power of two, and `Binary64.ofRatio` rounds a quotient of whole numbers to the
nearest number, ties going to the one with an even significand.
-/

namespace Sourcewright

/-- A floating point number in its 64-bit binary form. -/
structure Binary64 where
  bits : UInt64
deriving DecidableEq

namespace Binary64

/-- What the bits of a number stand for. -/
inductive Class where
  /-- The number `significand * 2 ^ exponent`, with a sign. -/
  | finite (negative : Bool) (significand : Nat) (exponent : Int)
  | infinite (negative : Bool)
  | notANumber
deriving DecidableEq

def leastExponent : Int := -1074

def classify (number : Binary64) : Class :=
  let bits : Nat := number.bits.toNat
  let negative := bits / Nat.pow 2 63 == 1
  let biased : Nat := bits / Nat.pow 2 52 % Nat.pow 2 11
  let fraction : Nat := bits % Nat.pow 2 52
  if biased = 2047 then
    if fraction = 0 then .infinite negative else .notANumber
  else if biased = 0 then
    .finite negative fraction leastExponent
  else
    .finite negative (Nat.pow 2 52 + fraction) (leastExponent + (biased - 1))

/-- Whether a number is neither infinite nor undefined. -/
def isFinite (number : Binary64) : Bool :=
  match number.classify with
  | .finite _ _ _ => true
  | .infinite _ => false
  | .notANumber => false

/-- The number with the given sign and magnitude bits. -/
def ofMagnitude (negative : Bool) (magnitude : Nat) : Binary64 :=
  ⟨UInt64.ofNat ((if negative then Nat.pow 2 63 else 0) + magnitude)⟩

/-- The magnitude bits shared by both infinities. -/
def infiniteMagnitude : Nat := 2047 * Nat.pow 2 52

/-- The quotient of two whole numbers, rounded to the nearest whole number with
ties going to the even one. -/
def roundQuotient (numerator denominator : Nat) : Nat :=
  let quotient := numerator / denominator
  let doubled := 2 * (numerator % denominator)
  if denominator < doubled ∨ (doubled = denominator ∧ quotient % 2 = 1) then
    quotient + 1
  else
    quotient

/-- The fraction `numerator / denominator / 2 ^ exponent` as a quotient of whole
numbers. -/
def scaledRatio (numerator denominator : Nat) (exponent : Int) : Nat × Nat :=
  if exponent < 0 then
    (numerator * Nat.pow 2 exponent.natAbs, denominator)
  else
    (numerator, denominator * Nat.pow 2 exponent.natAbs)

/-- The exponent at which a positive quotient has a 53-bit significand, or the
least exponent if it is too small for one. -/
def exponentOfRatio (numerator denominator : Nat) : Int :=
  let guess : Int :=
    max leastExponent ((numerator.log2 : Int) - denominator.log2 - 53)
  let scaled := scaledRatio numerator denominator guess
  if scaled.1 / scaled.2 < Nat.pow 2 53 then guess else guess + 1

/-- The number nearest to a quotient of whole numbers. -/
def ofRatio (negative : Bool) (numerator denominator : Nat) : Binary64 :=
  if numerator = 0 then
    ofMagnitude negative 0
  else
    let exponent := exponentOfRatio numerator denominator
    let scaled := scaledRatio numerator denominator exponent
    -- A significand that rounds up to 2 ^ 53 carries into the exponent bits.
    let magnitude :=
      (exponent - leastExponent).toNat * Nat.pow 2 52 + roundQuotient scaled.1 scaled.2
    ofMagnitude negative (min magnitude infiniteMagnitude)

/-- The number nearest to a whole number. -/
def ofNat (negative : Bool) (value : Nat) : Binary64 :=
  ofRatio negative value 1

/-- The magnitude of a finite number as a quotient of whole numbers, and zero for
any other number. -/
def magnitudeRatio (number : Binary64) : Nat × Nat :=
  match number.classify with
  | .finite _ significand exponent =>
    if exponent < 0 then
      (significand, Nat.pow 2 exponent.natAbs)
    else
      (significand * Nat.pow 2 exponent.natAbs, 1)
  | .infinite _ => (0, 1)
  | .notANumber => (0, 1)

/-- The product of two nonnegative finite numbers, rounded once. -/
def mul (left right : Binary64) : Binary64 :=
  let leftRatio := left.magnitudeRatio
  let rightRatio := right.magnitudeRatio
  ofRatio false (leftRatio.1 * rightRatio.1) (leftRatio.2 * rightRatio.2)

/-- The quotient of a nonnegative and a positive finite number, rounded once. -/
def div (left right : Binary64) : Binary64 :=
  let leftRatio := left.magnitudeRatio
  let rightRatio := right.magnitudeRatio
  ofRatio false (leftRatio.1 * rightRatio.2) (leftRatio.2 * rightRatio.1)

/-- The number nearest to a power of ten. -/
def powerOfTen (exponent : Nat) : Binary64 :=
  ofNat false (Nat.pow 10 exponent)

def withSign (negative : Bool) (number : Binary64) : Binary64 :=
  ofMagnitude negative (number.bits.toNat % Nat.pow 2 63)

/-- Whether a number is zero, of either sign. -/
def isZero (number : Binary64) : Bool :=
  number.bits.toNat % Nat.pow 2 63 == 0

end Binary64

end Sourcewright
