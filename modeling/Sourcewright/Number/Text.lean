import Sourcewright.Number.Shortest

/-!
# Texts of numbers

Whole numbers are written in decimal digits.

The digits of a floating point number are chosen by `Binary64.shortestDecimal`.
How they are arranged is a matter of the text they stand in: a `FloatStyle` says
which numbers are written positionally, how an exponent is marked, and what is
written for numbers that have no digits.
-/

namespace Sourcewright

def wholeText (value : Int) : String :=
  if value < 0 then
    "-" ++ String.ofList (Decimal.digitsOf value.natAbs)
  else
    String.ofList (Decimal.digitsOf value.natAbs)

/-- How the digits of a floating point number are arranged. -/
structure FloatStyle where
  /-- The numbers whose first digit counts a power of ten from `leastPositional`
  to `greatestPositional` are written without an exponent. -/
  leastPositional : Int
  greatestPositional : Int
  /-- Written between `e` and a nonnegative exponent. -/
  plusSign : String
  tie : TieRule
  /-- The texts of infinity, of negative infinity, and of an undefined number. -/
  infinity : String
  negativeInfinity : String
  notANumber : String

namespace FloatStyle

/-- Digits with at least one of them after the point. -/
def positional (decimal : Decimal) : List Char :=
  if decimal.exponent < 0 then
    '0' :: '.' :: List.replicate (decimal.exponent.natAbs - 1) '0' ++ decimal.digits
  else
    let whole := decimal.exponent.natAbs + 1
    let padding := List.replicate (whole - decimal.digits.length) '0'
    let fraction := decimal.digits.drop whole
    decimal.digits.take whole ++ padding ++
      '.' :: (if fraction.isEmpty then ['0'] else fraction)

/-- One digit, the others after a point, and the exponent. -/
def scientific (style : FloatStyle) (decimal : Decimal) : List Char :=
  let fraction := decimal.digits.drop 1
  let sign := if decimal.exponent < 0 then "" else style.plusSign
  decimal.digits.take 1 ++ (if fraction.isEmpty then [] else '.' :: fraction) ++
    'e' :: sign.toList ++ (wholeText decimal.exponent).toList

def magnitudeText (style : FloatStyle) (significand : Nat) (exponent : Int) :
    List Char :=
  if significand = 0 then
    "0.0".toList
  else
    let decimal := Binary64.shortestDecimal style.tie significand exponent
    if style.leastPositional ≤ decimal.exponent ∧
        decimal.exponent ≤ style.greatestPositional then
      positional decimal
    else
      style.scientific decimal

def text (style : FloatStyle) (number : Binary64) : String :=
  match number.classify with
  | .finite negative significand exponent =>
    String.ofList ((if negative then ['-'] else []) ++
      style.magnitudeText significand exponent)
  | .infinite false => style.infinity
  | .infinite true => style.negativeInfinity
  | .notANumber => style.notANumber

/-- Numbers in documents: positional from `0.00001` up to sixteen digits before
the point, a sign on every exponent, and `null` for a number without digits. -/
def document : FloatStyle where
  leastPositional := -5
  greatestPositional := 15
  plusSign := "+"
  tie := .toEven
  infinity := "null"
  negativeInfinity := "null"
  notANumber := "null"

/-- Numbers in source text, in outlines and in messages: positional from `0.0001`
up to sixteen digits before the point, and no sign on a nonnegative exponent. -/
def literal : FloatStyle where
  leastPositional := -4
  greatestPositional := 15
  plusSign := ""
  tie := .up
  infinity := "inf"
  negativeInfinity := "-inf"
  notANumber := "NaN"

end FloatStyle

end Sourcewright
