/-
# Options, lists and maps in a document

Entries are separated by commas, and a comma behind the last one is allowed. Every
element, key and value is read one level deeper than its collection, and the collection
itself one level deeper than what surrounds it.
-/

import Parley.Ron.Quoted

namespace Parley.Ron.Reader

variable {α β : Type}

def bool : Reader Bool := do
  if ← accept "true" then return true
  else if ← accept "false" then return false
  else fail .expectedBoolean

/-- Reads what stands in parentheses as the only thing, with a comma behind it allowed. -/
def parenthesized (inner : Reader α) : Reader α := do
  let value ← inner
  let _ ← comma
  expect ")" .expectedClosingParenthesis
  return value

/-- Whether a present option is opened: its word and its parenthesis come next. The word
is taken even if the parenthesis is missing. -/
def acceptSome : Reader Bool := do
  if ← accept "Some" then
    blanks
    accept "("
  else return false

/-- Reads an optional value. With implicit options a bare value counts as present. -/
def option (inner : Reader α) : Reader (Option α) := do
  if ← accept "None" then return none
  else if ← acceptSome then
    blanks
    parenthesized (some <$> nested inner)
  else if (← rules).extensions.contains .implicitSome then some <$> nested inner
  else fail .expectedOption

/-- Whether another entry comes. An entry needs a comma before it unless it is the first,
and the closing byte is left in place. -/
def hasEntry (separated : Bool) (closing : UInt8) : Reader Bool := do
  blanks
  let next ← peek
  if next = closing then return false
  else if separated then return true
  else fail .expectedComma

/-- Reads the elements of a list up to the closing byte. -/
def elements (inner : Reader α) (closing : UInt8) : Nat → Bool → Reader (List α)
  | 0, _ => fail .endOfInput
  | more + 1, separated => do
    if ← hasEntry separated closing then
      let first ← nested inner
      let separated ← comma
      let others ← elements inner closing more separated
      return first :: others
    else return []

/-- Reads a list. -/
def list (inner : Reader α) : Reader (List α) := do
  expect "[" .expectedOpeningBracket
  let found ← nested (repeating fun more => elements inner ']'.toUInt8 more true)
  skip 1
  return found

/-- Reads what stands behind a key: a colon and a value. -/
def assigned (inner : Reader α) : Reader α := do
  blanks
  expect ":" .expectedColon
  blanks
  nested inner

/-- Reads the entries of a map up to the closing byte. -/
def entries (key : Reader α) (value : Reader β) (closing : UInt8) :
    Nat → Bool → Reader (List (α × β))
  | 0, _ => fail .endOfInput
  | more + 1, separated => do
    if ← hasEntry separated closing then
      let k ← nested key
      let v ← assigned value
      let separated ← comma
      let others ← entries key value closing more separated
      return (k, v) :: others
    else return []

/-- Reads a map as its entries, with repeated keys as they stand. -/
def map (key : Reader α) (value : Reader β) : Reader (List (α × β)) := do
  expect "\x7b" .expectedOpeningBrace
  let found ← nested (repeating fun more => entries key value '}'.toUInt8 more true)
  skip 1
  return found

end Parley.Ron.Reader
