/-
# Numbers in a document

Integers may carry a sign, a base mark and underscores between their digits, and are
judged against the bounds of their type digit by digit: a number that leaves the bounds
on the way is out of bounds. Floating point numbers are decimal, with or without an
exponent, or one of the words for what no decimal can say.
-/

import Parley.Floating.Rounding
import Parley.Ron.Reader

namespace Parley.Ron

/-- The value of a hexadecimal digit. -/
def hexValue? (b : UInt8) : Option Nat :=
  if isDigit b then some (b.toNat - '0'.toNat)
  else if 'a'.toUInt8 ≤ b && b ≤ 'f'.toUInt8 then some (b.toNat - 'a'.toNat + 10)
  else if 'A'.toUInt8 ≤ b && b ≤ 'F'.toUInt8 then some (b.toNat - 'A'.toNat + 10)
  else none

/-- Whether a byte may stand in an integer. -/
def isIntegerByte (b : UInt8) : Bool := (hexValue? b).isSome || b == '_'.toUInt8

/-- Whether a byte may stand in a floating point number. -/
def isFloatByte (b : UInt8) : Bool :=
  isDigit b || b == '.'.toUInt8 || b == 'e'.toUInt8 || b == 'E'.toUInt8 || b == '+'.toUInt8
    || b == '-'.toUInt8 || b == '_'.toUInt8

/-- The integers of a type. -/
structure Bounds where
  least : Int
  greatest : Int
deriving DecidableEq, Repr

namespace Bounds

def int32 : Bounds := ⟨Int32.minValue.toInt, Int32.maxValue.toInt⟩

def int64 : Bounds := ⟨Int64.minValue.toInt, Int64.maxValue.toInt⟩

def nat64 : Bounds := ⟨0, UInt64.size - 1⟩

/-- An integer of the type, or the problem that it is none. -/
def check (bounds : Bounds) (n : Int) : Except Problem Int :=
  if bounds.least ≤ n ∧ n ≤ bounds.greatest then .ok n else .error .integerOutOfBounds

end Bounds

/-- Appends one digit to the integer read so far. Underscores count for nothing, and a
negative integer grows downwards. -/
def appendDigit (bounds : Bounds) (negative : Bool) (base : Nat) (read : Int) (b : UInt8) :
    Except Problem Int :=
  if b = '_'.toUInt8 then .ok read
  else do
    let shifted ← bounds.check (read * base)
    match hexValue? b with
    | none => .error (.badEscape .notHexadecimal)
    | some digit =>
      if base ≤ digit then .error .expectedInteger
      else bounds.check (if negative then shifted - digit else shifted + digit)

/-- The base that a number announces by its first two bytes. -/
def announcedBase? : List UInt8 → Option Nat
  | zero :: mark :: _ =>
    if zero ≠ '0'.toUInt8 then none
    else if mark = 'x'.toUInt8 then some 16
    else if mark = 'b'.toUInt8 then some 2
    else if mark = 'o'.toUInt8 then some 8
    else none
  | _ => none

namespace Reader

/-- Reads the digits of an integer whose sign is known. They are taken as a whole, also
when they are refused. -/
def digits (bounds : Bounds) (negative : Bool) : Reader Int := do
  let announced := announcedBase? (← ahead)
  if announced.isSome then skip 2
  let taken ← run isIntegerByte
  match taken with
  | [] => fail .expectedInteger
  | first :: _ =>
    if first = '_'.toUInt8 then fail .leadingUnderscore
    else
      skip taken.length
      match taken.foldlM (appendDigit bounds negative (announced.getD 10)) 0 with
      | .ok n => return n
      | .error problem => fail problem

/-- Reads an integer with an optional sign. -/
def integer (bounds : Bounds) : Reader Int := do
  let first ← peek
  if first = '+'.toUInt8 then
    skip 1
    digits bounds false
  else if first = '-'.toUInt8 then
    skip 1
    digits bounds true
  else digits bounds false

end Reader

/-- A decimal number as it is written: its sign, its digits without the point, and the
power of ten of the last of them. -/
structure DecimalText where
  negative : Bool
  digits : Nat
  exponent : Int
deriving DecidableEq, Repr

namespace DecimalText

/-- The natural number with these decimal digits. -/
def natOf (digits : List UInt8) : Nat :=
  digits.foldl (fun n b => n * 10 + (b.toNat - '0'.toNat)) 0

def splitSign : List UInt8 → Bool × List UInt8
  | [] => (false, [])
  | b :: rest =>
    if b = '-'.toUInt8 then (true, rest)
    else if b = '+'.toUInt8 then (false, rest)
    else (false, b :: rest)

/-- The exponent behind the digits: none, or a letter, an optional sign and at least one
digit, with nothing left. -/
def exponent? : List UInt8 → Option Int
  | [] => some 0
  | letter :: rest =>
    if letter = 'e'.toUInt8 ∨ letter = 'E'.toUInt8 then
      let (negative, digits) := splitSign rest
      if digits.isEmpty || !digits.all isDigit then none
      else some (if negative then -(natOf digits : Int) else natOf digits)
    else none

/-- Reads a decimal number that takes up all of the bytes. A digit is needed on one side
of the point only. -/
def ofBytes? (bytes : List UInt8) : Option DecimalText := do
  let (negative, bytes) := splitSign bytes
  let whole := bytes.takeWhile isDigit
  let rest := bytes.dropWhile isDigit
  let (fraction, rest) :=
    if rest.head? = some '.'.toUInt8 then
      ((rest.drop 1).takeWhile isDigit, (rest.drop 1).dropWhile isDigit)
    else ([], rest)
  if whole.isEmpty && fraction.isEmpty then none
  else
    let exponent ← exponent? rest
    return ⟨negative, natOf (whole ++ fraction), exponent - fraction.length⟩

end DecimalText

/-- The words for infinity and for what is no number. -/
def floatWords (f : Floating.Format) : List (String × Floating f) :=
  [("inf", .infinity), ("+inf", .infinity), ("-inf", -.infinity),
    ("NaN", .nan), ("+NaN", .nan), ("-NaN", -.nan)]

namespace Reader

/-- Moves behind the first of some words that comes next, and tells which it was. -/
def acceptWords {α : Type} : List (String × α) → Reader (Option α)
  | [] => return none
  | (word, value) :: others => do
    if ← acceptWord word then return some value else acceptWords others

/-- Reads a floating point number. The bytes that could belong to one are taken as a
whole, also when they are refused, but not beyond an underscore. -/
def float (f : Floating.Format) : Reader (Floating f) := do
  match ← acceptWords (floatWords f) with
  | some value => return value
  | none =>
    let taken ← run isFloatByte
    let plain := taken.takeWhile (· ≠ '_'.toUInt8)
    if plain.length < taken.length then
      skip plain.length
      fail .underscoreInFloat
    else
      skip taken.length
      match DecimalText.ofBytes? taken with
      | some text => return Floating.ofDecimal f text.negative text.digits text.exponent
      | none => fail .expectedFloat

end Reader

end Parley.Ron
