/-
# UTF-8

Bytes are read as the characters they encode, or the first place is named at which they
encode none. A malformed sequence is as long as the bytes that could still have begun a
character, so it is known how many of them to blame. Bytes that end in the middle of a
character are told apart from malformed ones: more bytes might have mended them.
-/

namespace Parley.Text.Utf8

/-- Why bytes encode no text. -/
inductive Fault where
  /-- From this index on, this many bytes begin no character. -/
  | malformed (index : Nat) (length : Nat)
  /-- The character that begins at this index has no end. -/
  | truncated (index : Nat)
deriving DecidableEq, Repr

def Fault.message : Fault → String
  | .malformed index length =>
    "invalid utf-8 sequence of " ++ toString length ++ " bytes from index " ++ toString index
  | .truncated index => "incomplete utf-8 byte sequence from index " ++ toString index

/-- Whether a byte continues a character. -/
def isContinuation (b : UInt8) : Bool := 0x80 ≤ b && b ≤ 0xBF

/-- How many bytes a character has that begins with this byte, if one does. Bytes whose
characters would fit a shorter form, or lie beyond the last code point, begin none. -/
def lengthOf? (b : UInt8) : Option Nat :=
  if b ≤ 0x7F then some 1
  else if 0xC2 ≤ b && b ≤ 0xDF then some 2
  else if 0xE0 ≤ b && b ≤ 0xEF then some 3
  else if 0xF0 ≤ b && b ≤ 0xF4 then some 4
  else none

/-- Whether a second byte may follow a first byte of three or four. The narrower ranges
leave out forms that are too long, surrogates and what lies beyond the last code point. -/
def mayFollow (first second : UInt8) : Bool :=
  if first = 0xE0 then 0xA0 ≤ second && second ≤ 0xBF
  else if first = 0xED then 0x80 ≤ second && second ≤ 0x9F
  else if first = 0xF0 then 0x90 ≤ second && second ≤ 0xBF
  else if first = 0xF4 then 0x80 ≤ second && second ≤ 0x8F
  else isContinuation second

/-- The code point of a first byte, cut to its payload, and the bytes that continue it. -/
def codePoint (lead : Nat) (continuations : List UInt8) : Char :=
  Char.ofNat (continuations.foldl (fun n b => n * 64 + b.toNat % 64) lead)

/-- Reads the characters of bytes of which the first stands at an index. -/
def decodeFrom (index : Nat) : List UInt8 → Except Fault (List Char)
  | [] => .ok []
  | a :: rest =>
    match lengthOf? a, rest with
    | some 1, rest => do
      let chars ← decodeFrom (index + 1) rest
      return Char.ofNat a.toNat :: chars
    | some 2, b :: rest =>
      if isContinuation b then do
        let chars ← decodeFrom (index + 2) rest
        return codePoint (a.toNat % 32) [b] :: chars
      else .error (.malformed index 1)
    | some 3, b :: rest =>
      if mayFollow a b then
        match rest with
        | c :: rest =>
          if isContinuation c then do
            let chars ← decodeFrom (index + 3) rest
            return codePoint (a.toNat % 16) [b, c] :: chars
          else .error (.malformed index 2)
        | [] => .error (.truncated index)
      else .error (.malformed index 1)
    | some 4, b :: rest =>
      if mayFollow a b then
        match rest with
        | c :: rest =>
          if isContinuation c then
            match rest with
            | d :: rest =>
              if isContinuation d then do
                let chars ← decodeFrom (index + 4) rest
                return codePoint (a.toNat % 8) [b, c, d] :: chars
              else .error (.malformed index 3)
            | [] => .error (.truncated index)
          else .error (.malformed index 2)
        | [] => .error (.truncated index)
      else .error (.malformed index 1)
    | some _, [] => .error (.truncated index)
    | _, _ => .error (.malformed index 1)

/-- The text that bytes encode. -/
def decode (bytes : List UInt8) : Except Fault String :=
  return String.ofList (← decodeFrom 0 bytes)

/-- The bytes that encode a text. -/
def encode (text : String) : List UInt8 := text.toList.flatMap String.utf8EncodeChar

end Parley.Text.Utf8
