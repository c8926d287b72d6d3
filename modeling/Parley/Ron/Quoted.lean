/-
# Texts in a document

A text stands between quotes, where a backslash begins an escape, or behind a mark that
makes every byte stand for itself up to a quote with the same number of hashes. Bytes
that are not UTF-8 are only found out when the text ends. Writing uses the first form
and escapes whatever a reader could mistake or could not see.
-/

import Parley.Ron.Number

namespace Parley.Ron

def quote (text : String) : String :=
  "\"" ++ String.ofList (text.toList.flatMap (Text.escape ['\'', '"'])) ++ "\""

/-- The bytes before an ending, if it occurs. -/
def before? (ending : List UInt8) : List UInt8 → Option (List UInt8)
  | [] => if ending.isEmpty then some [] else none
  | b :: rest =>
    if ending.isPrefixOf (b :: rest) then some []
    else (before? ending rest).map (b :: ·)

/-- The bytes up to the next quote or backslash, and that byte, if there is one. -/
def plainPart? : List UInt8 → Option (List UInt8 × UInt8)
  | [] => none
  | b :: rest =>
    if b = '"'.toUInt8 ∨ b = '\\'.toUInt8 then some ([], b)
    else (plainPart? rest).map fun part => (b :: part.1, part.2)

/-- The character that a letter stands for behind a backslash. -/
def ofEscapeLetter? (letter : Char) : Option Char :=
  match letter with
  | '\'' => some '\''
  | '"' => some '"'
  | '\\' => some '\\'
  | 'n' => some '\n'
  | 'r' => some '\r'
  | 't' => some '\t'
  | '0' => some '\x00'
  | _ => none

namespace Reader

def hexDigit : Reader Nat := do
  match hexValue? (← byte) with
  | some digit => return digit
  | none => fail (.badEscape .notHexadecimal)

/-- Reads at most this many hexadecimal digits, up to a closing brace, and returns how
many there were and the number they form. -/
def hexDigits : Nat → Nat → Nat → Reader (Nat × Nat)
  | 0, count, number => return (count, number)
  | more + 1, count, number => do
    if (← peek) = '}'.toUInt8 then return (count, number)
    else
      let digit ← hexDigit
      hexDigits more (count + 1) (number * 16 + digit)

/-- Reads what stands behind a backslash. -/
def escape : Reader Char := do
  let letter := Char.ofNat (← byte).toNat
  match ofEscapeLetter? letter with
  | some c => return c
  | none =>
    if letter = 'x' then
      let high ← hexDigit
      let low ← hexDigit
      return Char.ofNat (high * 16 + low)
    else if letter = 'u' then
      unless (← byte) = '{'.toUInt8 do fail (.badEscape .missingOpeningBrace)
      let (count, number) ← hexDigits 6 0 0
      if count = 0 then fail (.badEscape .noDigits)
      unless (← byte) = '}'.toUInt8 do fail (.badEscape .missingClosingBrace)
      if number.isValidChar then return Char.ofNat number
      else fail (.badEscape .invalidScalar)
    else fail (.badEscape .unknownLetter)

def decoded (bytes : List UInt8) : Reader String :=
  match Text.Utf8.decode bytes with
  | .ok text => return text
  | .error fault => fail (.badText fault)

/-- Reads the rest of a text from an escape on and returns the bytes it stands for. -/
def escapedTail : Nat → Reader (List UInt8)
  | 0 => fail .unterminatedString
  | more + 1 => do
    let c ← escape
    match plainPart? (← ahead) with
    | none => fail .unterminatedString
    | some (plain, stop) =>
      skip (plain.length + 1)
      let taken := String.utf8EncodeChar c ++ plain
      if stop = '"'.toUInt8 then return taken
      else return taken ++ (← escapedTail more)

/-- Reads a text behind its opening quote. -/
def quotedTail : Reader String := do
  match plainPart? (← ahead) with
  | none => fail .unterminatedString
  | some (plain, stop) =>
    if stop = '"'.toUInt8 then
      let text ← decoded plain
      skip (plain.length + 1)
      return text
    else
      skip (plain.length + 1)
      decoded (plain ++ (← repeating escapedTail))

/-- Reads a text behind the mark that makes every byte stand for itself. -/
def rawTail : Reader String := do
  let hashes ← run (· == '#'.toUInt8)
  skip hashes.length
  expect "\"" .expectedString
  match before? ('"'.toUInt8 :: hashes) (← ahead) with
  | none => fail .unterminatedString
  | some content =>
    let text ← decoded content
    skip (content.length + hashes.length + 1)
    return text

def text : Reader String := do
  if ← accept "\"" then quotedTail
  else if ← accept "r" then rawTail
  else fail .expectedString

/-- Reads what stands between the apostrophes of a single character. Without an escape the
closing apostrophe has to be near, since no character takes more than four bytes. -/
def characterBody : Reader Char := do
  if (← peek) = '\\'.toUInt8 then
    skip 1
    escape
  else
    match before? ['\''.toUInt8] ((← ahead).take 5) with
    | none => fail .expectedCharacter
    | some content =>
      let text ← decoded content
      match text.toList with
      | [c] => do
        skip content.length
        return c
      | _ => fail .expectedCharacter

/-- Reads a single character between apostrophes. -/
def character : Reader Char := do
  expect "'" .expectedCharacter
  let c ← characterBody
  expect "'" .expectedCharacter
  return c

end Reader

end Parley.Ron
