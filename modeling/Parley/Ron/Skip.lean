/-
# Skipping a value

A structure may carry fields that nobody knows. Their values have to be well formed, so
they are read like any others and then forgotten. Since no type says what to expect, the
first bytes decide: words come before identifiers, and a parenthesis holds fields when
an identifier and a colon follow it, and a tuple otherwise.
-/

import Parley.Ron.Collection

namespace Parley.Ron.Reader

variable {α : Type}

/-- Looks at what an inner reader would do without moving. A problem it meets is reported
here, where the look was taken. -/
def lookahead (inner : Reader α) : Reader α := fun rules c =>
  match inner rules c with
  | .done value _ => .done value c
  | .failed problem _ => .failed problem c

/-- Whether an inner reader would find its value, without moving. -/
def succeeds (inner : Reader α) : Reader Bool := fun rules c =>
  match inner rules c with
  | .done _ _ => .done true c
  | .failed _ _ => .done false c

/-- Whether the parenthesis that comes next holds fields. -/
def holdsFields : Reader Bool := lookahead do
  skip 1
  blanks
  if ← succeeds identifier then
    let _ ← identifier
    blanks
    return (← byte) = ':'.toUInt8
  else return false

/-- Reads a number of any type. Bytes that look like an integer but are none are read
once more as a floating point number, and the columns of both readings are counted. -/
def number : Reader Unit := do
  let bytes ← ahead
  let (_, unsigned) := DecimalText.splitSign bytes
  let asFloat (_ : Unit) : Reader Unit := do
    let _ ← float Floating.binary64
  if (unsigned.takeWhile isIntegerByte).length < (unsigned.takeWhile isFloatByte).length then
    asFloat ()
  else
    let isSigned := unsigned.length < bytes.length
    let integer := if isSigned then integer .int64 else digits .nat64 false
    fun rules c =>
      match integer rules c with
      | .done _ rest => .done () rest
      | .failed _ stop => asFloat () rules ⟨c.bytes, stop.position⟩

/-- Skips what may stand behind a name: nothing, fields or a tuple. -/
def skipBody (inner : Reader Unit) : Reader Unit := do
  if (← ahead).head? ≠ some '('.toUInt8 then return ()
  else if ← holdsFields then
    skip 1
    let _ ← nested (repeating fun more => entries identifier inner ')'.toUInt8 more true)
    skip 1
  else
    skip 1
    let _ ← nested (repeating fun more => elements inner ')'.toUInt8 more true)
    skip 1

/-- Skips a value whose parts are skipped by an inner reader. -/
def skipWith (inner : Reader Unit) : Reader Unit := do
  if ← acceptWord "true" then return ()
  if ← acceptWord "false" then return ()
  if ← isAtWord "Some" then
    let _ ← option inner
    return ()
  if ← acceptWord "None" then return ()
  if ← accept "()" then return ()
  if (← acceptWords [("inf", ()), ("-inf", ()), ("NaN", ())]).isSome then return ()
  if ← succeeds identifier then
    let _ ← identifier
    blanks
    skipBody inner
  else
    let next ← peek
    if next = '('.toUInt8 then skipBody inner
    else if next = '['.toUInt8 then
      let _ ← list inner
    else if next = '{'.toUInt8 then
      let _ ← map inner inner
    else if isDigit next || next = '+'.toUInt8 || next = '-'.toUInt8 then number
    else if next = '.'.toUInt8 then
      let _ ← float Floating.binary64
    else if next = '"'.toUInt8 || next = 'r'.toUInt8 then
      let _ ← text
    else if next = '\''.toUInt8 then
      let _ ← character
    else fail (.unexpectedByte next)

/-- Skips a value that nests at most this deep. -/
def skipWithin : Nat → Reader Unit
  | 0 => fail .recursionLimit
  | depth + 1 => skipWith (skipWithin depth)

/-- Skips a value. Its parts are read at least one level deeper, so the depth that the
rules still allow bounds the nesting. -/
def skipValue : Reader Unit := fun rules c => skipWithin (rules.depth + 1) rules c

end Parley.Ron.Reader
