/-
# Requirements

A requirement puts a condition to one of the three sides of a conversation. The story
does not know when a condition holds: it names a kind and passes a key and a value, and
the side answers.
-/

import Parley.Payload

namespace Parley

/-- The sides of a conversation that can be asked and told things. -/
inductive Side where
  | npc
  | player
  | world
deriving DecidableEq, Repr

/-- A question about the state of the game. -/
structure Condition where
  kind : String
  key : Option String
  value : Payload
deriving DecidableEq

namespace Condition

instance : Inhabited Condition := ⟨⟨"", none, .none⟩⟩

/-- Whether two conditions ask the same, with payloads compared as values. -/
def isEqv (a b : Condition) : Bool :=
  a.kind == b.kind && a.key == b.key && a.value.isEqv b.value

end Condition

/-- A condition and the side that decides it. -/
structure Requirement where
  side : Side
  condition : Condition
deriving DecidableEq

namespace Requirement

/-- Whether two requirements ask the same of the same side. -/
def isEqv (a b : Requirement) : Bool :=
  a.side == b.side && a.condition.isEqv b.condition

end Requirement

/-- How the requirements of a dialog combine. -/
inductive Mode where
  /-- Every requirement must hold. -/
  | all
  /-- One requirement must hold, so a dialog without any never passes. -/
  | any
deriving DecidableEq, Repr

instance : Inhabited Mode := ⟨.all⟩

end Parley
