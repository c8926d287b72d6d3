/-
# Escaped characters

Inside a quoted text a character stands for itself when it is visible and cannot be
mistaken for the end of the text or the beginning of an escape. Every other character
is written as an escape: the common ones by a letter, the rest by their code point.
-/

import Parley.Text.Visible

namespace Parley.Text

/-- The letter that stands for a character behind a backslash. -/
def escapeLetter? : Char → Option Char
  | '\x00' => some '0'
  | '\t' => some 't'
  | '\r' => some 'r'
  | '\n' => some 'n'
  | '\\' => some '\\'
  | _ => none

/-- How a character is written between the given quotes. -/
def escape (quotes : List Char) (c : Char) : List Char :=
  match escapeLetter? c with
  | some letter => ['\\', letter]
  | none =>
    if c ∈ quotes then ['\\', c]
    else if isVisible c then [c]
    else ['\\', 'u', '{'] ++ Nat.toDigits 16 c.toNat ++ ['}']

end Parley.Text
