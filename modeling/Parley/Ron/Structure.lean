/-
# Structures and enumerations in a document

A structure is described once, by its fields, and the description serves reading and
writing. Reading starts from a blank value and lets each field that is present change
it, so the fields may come in any order and all but the required ones may be left out.
Fields that nobody knows are skipped. Writing puts every field down in order of
declaration.

An enumeration is described by its variants. A variant that carries a value has it in
parentheses, and a document may let these serve a structure inside as its own.
-/

import Parley.Floating.Decimal
import Parley.OrderedMap
import Parley.Ron.Skip

namespace Parley.Ron

variable {α β : Type}

/-- A type whose values are written into documents and read from them. -/
class Codec (α : Type) where
  read : Reader α
  write : α → String

/-! ## Structures -/

/-- A field of a structure. -/
structure Field (α : Type) where
  name : String
  /-- Whether documents must have it. -/
  isRequired : Bool
  /-- Reads the field and says how it changes the structure. -/
  read : Reader (α → α)
  write : α → String

/-- A field that may be left out. -/
def Field.optional [Codec β] (name : String) (get : α → β) (set : β → α → α) : Field α :=
  { name, isRequired := false
    read := set <$> Codec.read
    write := fun a => Codec.write (get a) }

/-- A field that must be present. -/
def Field.required [Codec β] (name : String) (get : α → β) (set : β → α → α) : Field α :=
  { Field.optional name get set with isRequired := true }

/-- The fields of a structure. -/
structure Layout (α : Type) where
  /-- The name that documents may write in front. -/
  name : String
  /-- What holds for the fields that are left out. -/
  blank : α
  fields : List (Field α)

namespace Layout

def field? (layout : Layout α) (name : String) : Option (Field α) :=
  layout.fields.find? fun field => field.name == name

/-- The first required field that was not read. -/
def missing? (layout : Layout α) (seen : List String) : Option (Field α) :=
  layout.fields.find? fun field => field.isRequired && !seen.contains field.name

/-- Reads fields up to the closing parenthesis, given those that were seen. -/
def readFields (layout : Layout α) (owner : String) :
    Nat → Bool → List String → α → Reader α
  | 0, _, _, _ => Reader.fail .endOfInput
  | more + 1, separated, seen, value => do
    if ← Reader.hasEntry separated ')'.toUInt8 then
      let name ← Reader.nested Reader.identifier
      match layout.field? name with
      | some field =>
        if seen.contains name then Reader.fail (.duplicateField name owner)
        let change ← Reader.assigned field.read
        let separated ← Reader.comma
        readFields layout owner more separated (name :: seen) (change value)
      | none =>
        Reader.assigned Reader.skipValue
        let separated ← Reader.comma
        readFields layout owner more separated seen value
    else
      match layout.missing? seen with
      | some field => Reader.fail (.missingField field.name owner)
      | none => return value

/-- Reads the fields of a structure that belongs to an owner. -/
def readBody (layout : Layout α) (owner : String) : Reader α :=
  Reader.nested (Reader.repeating fun more => layout.readFields owner more true [] layout.blank)

/-- Reads the name of a structure, which may be left out. -/
def readName (layout : Layout α) : Reader Unit := do
  if (← Reader.ahead).head?.any isIdentifierRest then
    if ← Reader.succeeds Reader.identifier then
      let found ← Reader.identifier
      if found ≠ layout.name then Reader.fail (.otherStructure layout.name found)
    else Reader.fail (.expectedStructure layout.name)

def read (layout : Layout α) : Reader α := do
  match (← Reader.rules).enclosing with
  | some variant =>
    Reader.blanks
    layout.readBody variant
  | none =>
    layout.readName
    Reader.blanks
    Reader.expect "(" (.expectedStructure layout.name)
    let value ← layout.readBody layout.name
    Reader.skip 1
    return value

/-- The text of a structure, with every field and without its name. -/
def write (layout : Layout α) (value : α) : String :=
  let fields := layout.fields.map fun field => field.name ++ ":" ++ field.write value
  "(" ++ ",".intercalate fields ++ ")"

end Layout

/-! ## Enumerations -/

/-- A variant of an enumeration. -/
structure Variant (α : Type) where
  name : String
  /-- Reads what follows the name. -/
  read : Reader α

/-- A variant that is its name. -/
def Variant.unit (name : String) (value : α) : Variant α := ⟨name, pure value⟩

/-- Reads the value that a variant carries in parentheses. -/
def Reader.carried (variant : String) (inner : Reader α) : Reader α := do
  blanks
  expect "(" .expectedOpeningParenthesis
  blanks
  let unwrap := (← rules).extensions.contains .unwrapVariantNewtypes
  let enclosed : Reader α := fun rules =>
    inner { rules with enclosing := if unwrap then some variant else none }
  parenthesized (nested enclosed)

/-- A variant that carries a value. -/
def Variant.carrying [Codec β] (name : String) (wrap : β → α) : Variant α :=
  ⟨name, Reader.carried name (wrap <$> Codec.read)⟩

/-- Reads a value of an enumeration. -/
def Reader.enumeration (name : String) (variants : List (Variant α)) : Reader α :=
  nested do
    blanks
    let found ← nested identifier
    match variants.find? fun variant => variant.name == found with
    | some variant => variant.read
    | none => fail (.unknownVariant name found (variants.map (·.name)))

/-- The text of a variant that carries a value. -/
def writeCarried [Codec β] (variant : String) (value : β) : String :=
  variant ++ "(" ++ Codec.write value ++ ")"

/-! ## Base types -/

instance : Codec Bool where
  read := Reader.bool
  write value := if value then "true" else "false"

instance : Codec Int32 where
  read := Int32.ofInt <$> Reader.integer .int32
  write value := toString value.toInt

instance : Codec Int64 where
  read := Int64.ofInt <$> Reader.integer .int64
  write value := toString value.toInt

instance (f : Floating.Format) : Codec (Floating f) where
  read := Reader.float f
  write value := value.render

instance : Codec String where
  read := Reader.text
  write := quote

instance [Codec α] : Codec (Option α) where
  read := Reader.option Codec.read
  write
    | none => "None"
    | some value => writeCarried "Some" value

instance [Codec α] : Codec (List α) where
  read := Reader.list Codec.read
  write values := "[" ++ ",".intercalate (values.map Codec.write) ++ "]"

instance [DecidableEq α] [Codec α] [Codec β] : Codec (OrderedMap α β) where
  read := OrderedMap.ofList <$> Reader.map Codec.read Codec.read
  write values :=
    let entries := values.entries.map fun entry =>
      Codec.write entry.1 ++ ":" ++ Codec.write entry.2
    "\x7b" ++ ",".intercalate entries ++ "\x7d"

end Parley.Ron
