/-
# Decimal text of floating point numbers

A number is written with the fewest significant digits that read back to it, and with
the nearest such digits. Two candidates that are equally near are settled upwards. The
text is positional for every exponent, an integral value shows one zero behind the
point, and there is no exponent form.

The reals that round to a number form an interval. Its ends lie halfway to the
neighbours and belong to it exactly when the significand is even. For each count of
digits only the two neighbours of the value on that decimal grid can be in it, so the
search tries these two, one digit more each time.
-/

import Parley.Floating.Basic

namespace Parley.Floating

/-- A positive decimal number `digits * 10 ^ exponent`. -/
structure Decimal where
  digits : Nat
  /-- The power of ten of the last digit. -/
  exponent : Int
deriving DecidableEq, Repr

/-- The reals that round to one number, as multiples of `2 ^ exponent`. -/
structure Interval where
  lower : Nat
  value : Nat
  upper : Nat
  /-- The power of two that all three are multiples of. -/
  exponent : Int
  /-- Whether the ends round to the number too. -/
  closed : Bool
deriving DecidableEq, Repr

/-- The reals that round to a positive finite magnitude. Below the first number of a
binade the numbers lie twice as dense. -/
def Interval.ofMagnitude (f : Format) (magnitude : Nat) : Interval :=
  let field := magnitude / f.binade
  let fraction := magnitude % f.binade
  let significand := if field = 0 then fraction else f.binade + fraction
  let place := f.leastExponent + (field - 1 : Nat)
  let halfStepBelow := if fraction = 0 ∧ 1 < field then 1 else 2
  { lower := 4 * significand - halfStepBelow
    value := 4 * significand
    upper := 4 * significand + 2
    exponent := place - 2
    closed := significand % 2 = 0 }

/-- Compares a decimal number with a multiple of a power of two. -/
def Decimal.compareBinary (d : Decimal) (multiple : Nat) (exponent : Int) : Ordering :=
  compare (d.digits * Nat.pow 10 d.exponent.toNat * Nat.pow 2 (-exponent).toNat)
    (multiple * Nat.pow 2 exponent.toNat * Nat.pow 10 (-d.exponent).toNat)

/-- Whether a decimal number rounds to the number of the interval. -/
def Interval.contains (i : Interval) (d : Decimal) : Bool :=
  let low := d.compareBinary i.lower i.exponent
  let high := d.compareBinary i.upper i.exponent
  (low == .gt || i.closed && low == .eq) && (high == .lt || i.closed && high == .eq)

/-- The number of digits before the decimal point, negative for leading zeros behind it:
the least power of ten above the value. The estimate from the binary length is off by
one place at most. -/
def Interval.scale (i : Interval) : Int :=
  let estimate := Int.fdiv ((i.value.log2 + i.exponent) * 30103) 100000
  let candidates := [estimate - 1, estimate, estimate + 1]
  let above := candidates.find? fun power =>
    (Decimal.mk 1 power).compareBinary i.value i.exponent == .gt
  above.getD (estimate + 2)

/-- The decimal number of a given digit count that reads back, if there is one: of the
two neighbours on the grid the nearer, and the upper one where both are equally near. -/
def Interval.atCount? (i : Interval) (count : Nat) : Option Decimal :=
  let exponent := i.scale - count
  let below : Decimal :=
    ⟨i.value * Nat.pow 2 i.exponent.toNat * Nat.pow 10 (-exponent).toNat
      / (Nat.pow 2 (-i.exponent).toNat * Nat.pow 10 exponent.toNat), exponent⟩
  let above : Decimal := { below with digits := below.digits + 1 }
  if i.contains below && i.contains above then
    -- the value lies below the middle of the two exactly when the lower one is nearer
    let middle : Decimal := { below with digits := 2 * below.digits + 1 }
    if middle.compareBinary (2 * i.value) i.exponent == .gt then some below else some above
  else if i.contains below then some below
  else if i.contains above then some above
  else none

/-- Moves the zeros at the end of the digits into the exponent. -/
def Decimal.strip (d : Decimal) : Decimal :=
  if d.digits ≠ 0 ∧ d.digits % 10 = 0 then
    Decimal.strip ⟨d.digits / 10, d.exponent + 1⟩
  else d
termination_by d.digits
decreasing_by omega

/-- The exact value, for a number that no short decimal reads back to. -/
def Interval.exact (i : Interval) : Decimal :=
  ⟨i.value * Nat.pow 2 i.exponent.toNat * Nat.pow 5 (-i.exponent).toNat, min i.exponent 0⟩

/-- The shortest decimal number that reads back to a positive finite magnitude.
Seventeen digits suffice for double precision, and fewer for less. -/
def shortest (f : Format) (magnitude : Nat) : Decimal :=
  let interval := Interval.ofMagnitude f magnitude
  let found := (List.range' 1 17).findSome? interval.atCount?
  (found.getD interval.exact).strip

/-- The positional text of a decimal number, with at least one digit on each side of the
point. -/
def Decimal.render (d : Decimal) : String :=
  let digits := Nat.toDigits 10 d.digits
  if 0 ≤ d.exponent then
    String.ofList (digits ++ List.replicate d.exponent.toNat '0' ++ ['.', '0'])
  else
    let places := (-d.exponent).toNat
    let padded := List.replicate (places + 1 - digits.length) '0' ++ digits
    let whole := padded.take (padded.length - places)
    let fraction := padded.drop (padded.length - places)
    String.ofList (whole ++ '.' :: fraction)

/-- The text of a number. Zero keeps its sign, and what is no number has none. -/
def render {f : Format} (x : Floating f) : String :=
  if x.isNaN then "NaN"
  else
    let sign := if x.isNegative then "-" else ""
    let absolute :=
      if x.isInfinite then "inf"
      else if x.magnitude = 0 then "0.0"
      else (shortest f x.magnitude).render
    sign ++ absolute

end Parley.Floating
