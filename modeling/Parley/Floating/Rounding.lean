/-
# Rounding to a floating point number

Every conversion into a floating point number goes the same way: the exact value is a
quotient of naturals, and the nearest representable number is taken, the even one of
two that are equally near. The quotient is scaled so that its integer part has as many
bits as the format holds. Its rounded integer part then gives the word by one
multiplication and one addition, and a carry into the next binade needs no case of its
own, because the words on both sides of a binade are consecutive.
-/

import Parley.Floating.Basic

namespace Parley.Floating

/-- The integer nearest to a quotient, the even one of two that are equally near. -/
def roundHalfEven (numerator denominator : Nat) : Nat :=
  let whole := numerator / denominator
  match compare (2 * (numerator % denominator)) denominator with
  | .lt => whole
  | .gt => whole + 1
  | .eq => if whole % 2 = 0 then whole else whole + 1

/-- The exponent of the last place that a number of this size keeps. -/
def placeOf (f : Format) (numerator denominator : Nat) : Int :=
  let estimate : Int := (numerator.log2 : Int) - denominator.log2 - f.precision
  let scaled :=
    numerator * Nat.pow 2 (-estimate).toNat / (denominator * Nat.pow 2 estimate.toNat)
  let exact := if scaled < Nat.pow 2 f.precision then estimate else estimate + 1
  max exact f.leastExponent

/-- The number nearest to a quotient with the given sign. Too large a quotient is infinite. -/
def ofQuotient (f : Format) (negative : Bool) (numerator denominator : Nat) : Floating f :=
  if numerator = 0 then
    ofMagnitude negative 0
  else
    let place := placeOf f numerator denominator
    let significand :=
      roundHalfEven (numerator * Nat.pow 2 (-place).toNat) (denominator * Nat.pow 2 place.toNat)
    let magnitude := (place - f.leastExponent).toNat * f.binade + significand
    ofMagnitude negative (min magnitude f.infinity)

/-- The number nearest to an integer. -/
def ofInt (f : Format) (n : Int) : Floating f :=
  ofQuotient f (n < 0) n.natAbs 1

/-- The number nearest to `digits * 10 ^ exponent` with the given sign.

The bounds on the scale only keep the powers of ten small: a value beyond them is
certainly infinite, or certainly nearer to zero than to the smallest number. -/
def ofDecimal (f : Format) (negative : Bool) (digits : Nat) (exponent : Int) : Floating f :=
  let scale : Int := (Nat.toDigits 10 digits).length + exponent
  if digits = 0 ∨ scale < f.leastExponent - 1 then
    ofMagnitude negative 0
  else if scale > f.bias + 2 then
    ofMagnitude negative f.infinity
  else
    ofQuotient f negative (digits * Nat.pow 10 exponent.toNat) (Nat.pow 10 (-exponent).toNat)

end Parley.Floating
