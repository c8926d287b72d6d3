/-
# Reading a document byte by byte

A reader takes bytes from a cursor and ends with a value or a problem, and in both cases
with the place it has come to, because a problem is reported where the cursor stands
when it arises. What a reader may do depends on rules: the extensions that the document
has switched on, how much deeper it may nest, and whether the structure to come is
written without its own parentheses.

Reading never goes back. A reader that has to look ahead does so on the remaining bytes
and leaves the cursor where it was.
-/

import Parley.Ron.Problem

namespace Parley.Ron

/-- A place in a document, counted in bytes. Lines and columns begin at one. -/
structure Position where
  line : Nat
  column : Nat
deriving DecidableEq, Repr

/-- The place behind a byte. -/
def Position.after (p : Position) (b : UInt8) : Position :=
  if b = '\n'.toUInt8 then ⟨p.line + 1, 1⟩ else { p with column := p.column + 1 }

/-- The bytes that are still to be read, and where they begin. -/
structure Cursor where
  bytes : List UInt8
  position : Position
deriving DecidableEq, Repr

/-- The cursor before the first byte of a document. -/
def Cursor.start (bytes : List UInt8) : Cursor := ⟨bytes, ⟨1, 1⟩⟩

/-- Moves behind the next bytes, at most to the end. -/
def Cursor.advance (c : Cursor) (count : Nat) : Cursor :=
  ⟨c.bytes.drop count, (c.bytes.take count).foldl Position.after c.position⟩

/-- What a document may switch on in its first lines. -/
inductive Extension where
  /-- Structures with one unnamed field are written without their parentheses. -/
  | unwrapNewtypes
  /-- A present option is written as its bare value. -/
  | implicitSome
  /-- A structure inside a variant is written without its own parentheses. -/
  | unwrapVariantNewtypes
deriving DecidableEq, Repr

/-- What a reader may do. -/
structure Rules where
  extensions : List Extension
  /-- How much deeper the document may nest. -/
  depth : Nat
  /-- The variant whose parentheses serve the structure to come as its own. -/
  enclosing : Option String
deriving DecidableEq, Repr

/-- How reading ended, and where. -/
inductive Outcome (α : Type) where
  | done (value : α) (rest : Cursor)
  | failed (problem : Problem) (rest : Cursor)
deriving DecidableEq

def Reader (α : Type) := Rules → Cursor → Outcome α

namespace Reader

variable {α β : Type}

protected def pure (value : α) : Reader α := fun _ c => .done value c

/-- Reads on with what was read, if it could be read. -/
protected def bind (first : Reader α) (next : α → Reader β) : Reader β := fun rules c =>
  match first rules c with
  | .done value rest => next value rules rest
  | .failed problem rest => .failed problem rest

instance : Monad Reader where
  pure := Reader.pure
  bind := Reader.bind

def fail (problem : Problem) : Reader α := fun _ c => .failed problem c

def rules : Reader Rules := fun rules c => .done rules c

/-- The bytes that are still to be read. -/
def ahead : Reader (List UInt8) := fun _ c => .done c.bytes c

def skip (count : Nat) : Reader Unit := fun _ c => .done () (c.advance count)

/-- The next byte, left in place. -/
def peek : Reader UInt8 := do
  match ← ahead with
  | [] => fail .endOfInput
  | b :: _ => return b

def byte : Reader UInt8 := do
  let b ← peek
  skip 1
  return b

/-- The longest run of bytes of a class, left in place. -/
def run (isIn : UInt8 → Bool) : Reader (List UInt8) := do
  return (← ahead).takeWhile isIn

/-- Moves behind a text of the document's own alphabet if it comes next, and tells
whether it did. -/
def accept (text : String) : Reader Bool := do
  let bytes := Text.Utf8.encode text
  if bytes.isPrefixOf (← ahead) then
    skip bytes.length
    return true
  else return false

/-- Moves behind a text that must come next. -/
def expect (text : String) (problem : Problem) : Reader Unit := do
  unless ← accept text do fail problem

/-- Whether a word comes next that does not go on as a longer identifier. -/
def isAtWord (word : String) : Reader Bool := do
  let bytes := Text.Utf8.encode word
  let rest ← ahead
  return bytes.isPrefixOf rest && !(rest.drop bytes.length).head?.any isIdentifierRest

/-- Moves behind a whole word if it comes next, and tells whether it did. -/
def acceptWord (word : String) : Reader Bool := do
  let found ← isAtWord word
  if found then skip (Text.Utf8.encode word).length
  return found

/-- Reads one level deeper. Whatever encloses a level does not reach into it. -/
def nested (inner : Reader α) : Reader α := fun rules c =>
  match rules.depth with
  | 0 => .failed .recursionLimit c
  | depth + 1 => inner { rules with depth := depth, enclosing := none } c

/-- Reads with a bound on repetitions that no document can reach, because every
repetition takes at least one byte. -/
def repeating (loop : Nat → Reader α) : Reader α := fun rules c =>
  loop (c.bytes.length + 1) rules c

end Reader

/-! ## Blanks and comments -/

def isBlank (b : UInt8) : Bool :=
  b == ' '.toUInt8 || b == '\t'.toUInt8 || b == '\n'.toUInt8 || b == '\r'.toUInt8

/-- Where a run of blanks and comments stands. -/
inductive BlankState where
  | between
  /-- In a comment that ends with its line. -/
  | line
  /-- In a block comment with this many more around it. -/
  | block (outer : Nat)
deriving DecidableEq, Repr

/-- Moves behind blanks and comments. Block comments nest. -/
def skipBlanksFrom : BlankState → List UInt8 → Position → Outcome Unit
  | .between, [], p => .done () ⟨[], p⟩
  | .between, b :: rest, p =>
    if isBlank b then skipBlanksFrom .between rest (p.after b)
    else if b = '/'.toUInt8 then
      match rest with
      | [] => .failed .endOfInput ⟨[], p.after b⟩
      | next :: rest =>
        let p := (p.after b).after next
        if next = '/'.toUInt8 then skipBlanksFrom .line rest p
        else if next = '*'.toUInt8 then skipBlanksFrom (.block 0) rest p
        else .failed (.unexpectedByte next) ⟨rest, p⟩
    else .done () ⟨b :: rest, p⟩
  | .line, [], p => .done () ⟨[], p⟩
  | .line, b :: rest, p =>
    skipBlanksFrom (if b = '\n'.toUInt8 then .between else .line) rest (p.after b)
  | .block _, [], p => .failed .unclosedComment ⟨[], p⟩
  | .block _, [b], p => .failed .unclosedComment ⟨[], p.after b⟩
  | .block outer, b :: next :: rest, p =>
    if b = '/'.toUInt8 ∧ next = '*'.toUInt8 then
      skipBlanksFrom (.block (outer + 1)) rest ((p.after b).after next)
    else if b = '*'.toUInt8 ∧ next = '/'.toUInt8 then
      let state := match outer with
        | 0 => BlankState.between
        | outer + 1 => .block outer
      skipBlanksFrom state rest ((p.after b).after next)
    else skipBlanksFrom (.block outer) (next :: rest) (p.after b)

/-- Moves behind blanks and comments. -/
def Reader.blanks : Reader Unit := fun _ c => skipBlanksFrom .between c.bytes c.position

/-! ## Words and commas -/

/-- Bytes of the document's own alphabet as text. -/
def asciiText (bytes : List UInt8) : String :=
  String.ofList (bytes.map fun b => Char.ofNat b.toNat)

namespace Reader

/-- Reads an identifier. One that holds a mark such as a point or a minus has to be
announced as raw; without the announcement nothing is read. -/
def identifier : Reader String := do
  let first ← peek
  let plain ← run isIdentifierRest
  let raw ← run isRawIdentifier
  if !isIdentifierStart first then
    if isRawIdentifier first then fail (.unmarkedRawIdentifier (asciiText raw))
    else fail .expectedIdentifier
  else
    let next := (← ahead).drop 1
    if first = 'r'.toUInt8 && next.isEmpty then fail .endOfInput
    else if first = 'r'.toUInt8 && next.head? = some '"'.toUInt8 then fail .expectedIdentifier
    else if first = 'r'.toUInt8 && next.head? = some '#'.toUInt8 then
      -- a mark without a name behind it begins a string
      if (next.drop 1).head?.any isRawIdentifier then
        skip 2
        let name ← run isRawIdentifier
        skip name.length
        return asciiText name
      else fail .expectedIdentifier
    else if plain.length < raw.length then fail (.unmarkedRawIdentifier (asciiText raw))
    else
      skip plain.length
      return asciiText plain

/-- Moves behind blanks with at most one comma among them, and tells whether there was
one. -/
def comma : Reader Bool := do
  blanks
  let found ← accept ","
  if found then blanks
  return found

end Reader

end Parley.Ron
