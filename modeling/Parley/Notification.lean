/-
# Notifications

Choosing an option tells the game what happened. A notification carries an effect to a
recipient, which may be one of the three sides, the object that hosts the conversation,
or any other object of the world by name. A recipient may refuse.
-/

import Parley.Payload

namespace Parley

/-- Something that happens in the game. -/
structure Effect where
  kind : String
  key : Option String
  value : Payload
deriving DecidableEq

namespace Effect

instance : Inhabited Effect := ⟨⟨"", none, .none⟩⟩

/-- Whether two effects are the same, with payloads compared as values. -/
def isEqv (a b : Effect) : Bool :=
  a.kind == b.kind && a.key == b.key && a.value.isEqv b.value

end Effect

/-- Who hears of an effect. -/
inductive Recipient where
  /-- The object that hosts the conversation. -/
  | origin
  | npc
  | player
  | world
  | object (name : String)
deriving DecidableEq, Repr

instance : Inhabited Recipient := ⟨.origin⟩

/-- An effect on its way to a recipient. -/
structure Notification where
  recipient : Recipient
  effect : Effect
deriving DecidableEq

namespace Notification

instance : Inhabited Notification := ⟨⟨default, default⟩⟩

/-- Whether two notifications carry the same effect to the same recipient. -/
def isEqv (a b : Notification) : Bool :=
  a.recipient == b.recipient && a.effect.isEqv b.effect

end Notification

/-- Why an effect was not applied. -/
inductive Refusal where
  /-- The recipient turned an effect of this kind down. -/
  | rejected (kind reason : String)
  | unknownObject (name : String)
deriving DecidableEq, Repr

def Refusal.message : Refusal → String
  | .rejected kind reason => "effect `" ++ kind ++ "` was rejected: " ++ reason
  | .unknownObject name => "no object named `" ++ name ++ "` can receive notifications"

end Parley
