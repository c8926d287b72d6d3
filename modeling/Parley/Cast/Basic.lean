/-
# Casts

A story is told to a cast: the character spoken to, the player, and the world around
them. The library never looks inside. It puts conditions to the three sides and hands
them effects, and each side gives them a meaning. A condition is a question and changes
nothing; an effect may change the side that takes it, even one that it refuses.

The world also speaks for objects: the one that hosts the conversation, and others by
name. A world that has nothing to say about objects takes the effects of the host as its
own and knows no others.
-/

import Parley.Dialog

namespace Parley

/-- What an effect leaves behind. -/
structure Reaction (σ : Type) where
  after : σ
  /-- Why the effect was not applied, if it was not. -/
  refusal? : Option Refusal

/-- The reaction to an effect that was applied. -/
def Reaction.accepted {σ : Type} (after : σ) : Reaction σ := ⟨after, none⟩

/-- The reaction to an effect that was turned down. -/
def Reaction.refused {σ : Type} (after : σ) (refusal : Refusal) : Reaction σ :=
  ⟨after, some refusal⟩

/-- Changes the state that a reaction leaves behind. -/
def Reaction.map {σ τ : Type} (f : σ → τ) (reaction : Reaction σ) : Reaction τ :=
  ⟨f reaction.after, reaction.refusal?⟩

/-- Someone who can be asked and told things. -/
class Collaborator (σ : Type) where
  meets (state : σ) (condition : Condition) : Bool
  /-- Takes an effect of an option of the origin. -/
  apply (state : σ) (effect : Effect) (origin : Dialog) : Reaction σ

/-- An object of the world. -/
inductive WorldObject where
  /-- The object that hosts the conversation. -/
  | host
  | named (name : String)
deriving DecidableEq, Repr

/-- How a world that keeps no objects takes their effects. -/
def WorldObject.applyToWorld {σ : Type} [Collaborator σ] (world : σ) (object : WorldObject)
    (effect : Effect) (origin : Dialog) : Reaction σ :=
  match object with
  | host => Collaborator.apply world effect origin
  | named name => .refused world (.unknownObject name)

/-- Someone who also speaks for the objects of the world. -/
class WorldCollaborator (σ : Type) extends Collaborator σ where
  /-- Takes an effect on an object. -/
  applyToObject (world : σ) (object : WorldObject) (effect : Effect) (origin : Dialog) :
      Reaction σ :=
    object.applyToWorld world effect origin

/-- Those who take part in a conversation. -/
structure Cast (N P W : Type) where
  npc : N
  player : P
  world : W
deriving DecidableEq

namespace Cast

variable {N P W : Type} [Collaborator N] [Collaborator P] [WorldCollaborator W]

/-- Whether a side meets a condition. -/
def meets (cast : Cast N P W) (side : Side) (condition : Condition) : Bool :=
  match side with
  | .npc => Collaborator.meets cast.npc condition
  | .player => Collaborator.meets cast.player condition
  | .world => Collaborator.meets cast.world condition

/-- Hands an effect to a side. -/
def applyToSide (cast : Cast N P W) (side : Side) (effect : Effect) (origin : Dialog) :
    Reaction (Cast N P W) :=
  match side with
  | .npc =>
    (Collaborator.apply cast.npc effect origin).map fun npc => { cast with npc }
  | .player =>
    (Collaborator.apply cast.player effect origin).map fun player => { cast with player }
  | .world =>
    (Collaborator.apply cast.world effect origin).map fun world => { cast with world }

/-- Hands an effect to an object of the world. -/
def applyToObject (cast : Cast N P W) (object : WorldObject) (effect : Effect)
    (origin : Dialog) : Reaction (Cast N P W) :=
  (WorldCollaborator.applyToObject cast.world object effect origin).map fun world =>
    { cast with world }

/-- Hands a notification to its recipient, and to nobody else. -/
def notify (cast : Cast N P W) (n : Notification) (origin : Dialog) : Reaction (Cast N P W) :=
  match n.recipient with
  | .npc => cast.applyToSide .npc n.effect origin
  | .player => cast.applyToSide .player n.effect origin
  | .world => cast.applyToSide .world n.effect origin
  | .origin => cast.applyToObject .host n.effect origin
  | .object name => cast.applyToObject (.named name) n.effect origin

end Cast

end Parley
