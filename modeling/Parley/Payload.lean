/-
# Payloads

The value that a condition or an effect carries. A story hands it to the game without
looking inside: what a number or a text means is decided by whoever is asked.
-/

import Parley.Floating.Basic

namespace Parley

/-- A value for the game. -/
inductive Payload where
  | none
  | bool (value : Bool)
  | int (value : Int64)
  | float (value : Floating Floating.binary64)
  | text (value : String)
  /-- A duration. -/
  | seconds (value : Floating Floating.binary32)
deriving DecidableEq

namespace Payload

instance : Inhabited Payload := ⟨none⟩

/-- Whether two payloads are the same value. Floating point numbers are compared as
numbers, so a payload that holds no number differs from itself. -/
def isEqv : Payload → Payload → Bool
  | none, none => true
  | bool a, bool b => a == b
  | int a, int b => a == b
  | float a, float b => a.isEqv b
  | text a, text b => a == b
  | seconds a, seconds b => a.isEqv b
  | _, _ => false

end Payload

end Parley
