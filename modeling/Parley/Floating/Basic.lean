/-
# Floating point numbers as words

A floating point number is kept as the word that encodes it: a sign bit, an exponent
and a significand. Read as a natural number, the word without its sign grows with the
absolute value, so comparing two numbers is comparing two integers. Nothing here
computes with the machine's own floats, and every operation can be unfolded in a proof.

Equality of words and equality of numbers differ twice: the two zeros are equal numbers,
and a word that encodes no number equals nothing, not even itself.
-/

namespace Parley

namespace Floating

/-- The size of a binary interchange format. -/
structure Format where
  /-- Significant bits of a normal number, the leading one included. -/
  precision : Nat
  /-- Bits of the exponent field. -/
  exponentBits : Nat
deriving DecidableEq, Repr

/-- Double precision. -/
def binary64 : Format := ⟨53, 11⟩

/-- Single precision. -/
def binary32 : Format := ⟨24, 8⟩

namespace Format

/-- Bits of a word. The leading significant bit is not stored, which makes room for the sign. -/
def width (f : Format) : Nat := f.precision + f.exponentBits

/-- The distance between the exponent field and the exponent. -/
def bias (f : Format) : Nat := Nat.pow 2 (f.exponentBits - 1) - 1

/-- The exponent of the last place of the smallest numbers. -/
def leastExponent (f : Format) : Int := 2 - (f.bias + f.precision : Int)

/-- How far the word moves when the exponent grows by one. -/
def binade (f : Format) : Nat := Nat.pow 2 (f.precision - 1)

/-- The magnitude that stands for infinity. Larger magnitudes encode no number. -/
def infinity (f : Format) : Nat := (Nat.pow 2 f.exponentBits - 1) * f.binade

end Format

end Floating

/-- A floating point number in a format, as the word that encodes it. -/
structure Floating (f : Floating.Format) where
  /-- Sign, exponent and significand, the sign in the highest bit. -/
  bits : BitVec f.width
deriving DecidableEq

namespace Floating

variable {f : Format}

/-- The word with a given sign and magnitude. -/
def ofMagnitude (negative : Bool) (magnitude : Nat) : Floating f :=
  ⟨BitVec.ofNat _ ((if negative then Nat.pow 2 (f.width - 1) else 0) + magnitude)⟩

/-- Whether the sign bit is set. Negative zero has it too. -/
def isNegative (x : Floating f) : Bool := x.bits.msb

/-- The word without its sign. It grows with the absolute value. -/
def magnitude (x : Floating f) : Nat := x.bits.toNat % Nat.pow 2 (f.width - 1)

/-- Whether the word encodes no number. -/
def isNaN (x : Floating f) : Bool := f.infinity < x.magnitude

/-- Whether the number is infinite, of either sign. -/
def isInfinite (x : Floating f) : Bool := x.magnitude == f.infinity

def zero : Floating f := ofMagnitude false 0

def infinity : Floating f := ofMagnitude false f.infinity

/-- A word that encodes no number. -/
def nan : Floating f := ofMagnitude false (f.infinity + f.binade / 2)

instance : Inhabited (Floating f) := ⟨zero⟩

/-- The same number with the other sign. -/
def neg (x : Floating f) : Floating f := ofMagnitude (!x.isNegative) x.magnitude

instance : Neg (Floating f) := ⟨neg⟩

/-- An integer in the order of the numbers. Both zeros have rank zero. -/
def rank (x : Floating f) : Int :=
  if x.isNegative then -(x.magnitude : Int) else x.magnitude

/-- Equality of numbers: the zeros are equal, and what is no number equals nothing. -/
def isEqv (x y : Floating f) : Bool :=
  !x.isNaN && !y.isNaN && x.rank == y.rank

/-- The order of numbers. What is no number is not compared. -/
def le (x y : Floating f) : Bool :=
  !x.isNaN && !y.isNaN && x.rank ≤ y.rank

end Floating

end Parley
