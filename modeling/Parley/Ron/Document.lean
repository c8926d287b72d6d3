/-
# Whole documents

A document may begin with attributes that switch extensions on. Then comes one value,
and nothing but blanks and comments may follow it.
-/

import Parley.Ron.Structure

namespace Parley.Ron

variable {α : Type}

/-- A problem and the place at which it arose. -/
structure Error where
  position : Position
  problem : Problem
deriving DecidableEq, Repr

/-- The place and the problem in words. -/
def Error.message (e : Error) : String :=
  toString e.position.line ++ ":" ++ toString e.position.column ++ ": " ++ e.problem.message

def Extension.ofName? (name : String) : Option Extension :=
  if name = "unwrap_newtypes" then some .unwrapNewtypes
  else if name = "implicit_some" then some .implicitSome
  else if name = "unwrap_variant_newtypes" then some .unwrapVariantNewtypes
  else none

namespace Reader

/-- Tries pieces in turn, each with the blanks behind it, and tells whether all were
there. Every piece is tried, whatever became of those before it; of several problems the
first counts. -/
def pieces : List String → Reader Bool
  | [] => return true
  | piece :: others => fun rules c =>
    let tried : Reader Bool := do
      let found ← accept piece
      if found then blanks
      return found
    match tried rules c with
    | .done found rest =>
      match pieces others rules rest with
      | .done all rest => .done (found && all) rest
      | .failed problem rest => .failed problem rest
    | .failed problem rest =>
      match pieces others rules rest with
      | .done _ rest => .failed problem rest
      | .failed _ rest => .failed problem rest

/-- Reads the names of extensions, separated by commas. -/
def extensionNames : Nat → Reader (List Extension)
  | 0 => fail .endOfInput
  | more + 1 => do
    let name ← identifier
    match Extension.ofName? name with
    | none => fail (.unknownExtension name)
    | some extension =>
      let separated ← comma
      let goesOn := (← ahead).head?.any isIdentifierRest
      if goesOn && !separated then fail .expectedComma
      else if goesOn then return extension :: (← extensionNames more)
      else return [extension]

def enableAttribute : Reader (List Extension) := do
  unless ← pieces ["#", "!", "[", "enable", "("] do fail .expectedAttribute
  blanks
  let found ← repeating extensionNames
  blanks
  unless ← pieces [")", "]"] do fail .expectedAttributeEnd
  return found

/-- Reads attributes as long as more of them come. -/
def preamble : Nat → Reader (List Extension)
  | 0 => fail .endOfInput
  | more + 1 => do
    if (← ahead).head? = some '#'.toUInt8 then
      let found ← enableAttribute
      blanks
      return found ++ (← preamble more)
    else return []

/-- Reads a whole document with one value. -/
def document (value : Reader α) : Reader α := do
  blanks
  let extensions ← repeating preamble
  let read ← fun rules => value { rules with extensions := extensions }
  blanks
  unless (← ahead).isEmpty do fail .trailingCharacters
  return read

end Reader

/-- How deep a document may nest. -/
def depthLimit : Nat := 128

def decode [Codec α] (bytes : List UInt8) : Except Error α :=
  match Reader.document Codec.read ⟨[], depthLimit, none⟩ (.start bytes) with
  | .done value _ => .ok value
  | .failed problem rest => .error ⟨rest.position, problem⟩

def encode [Codec α] (value : α) : String := Codec.write value

end Parley.Ron
