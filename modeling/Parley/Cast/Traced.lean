/-
# What happens on the way to a result

`Traced α` is a value together with the events on the way to it: the questions put to a
cast, the notifications handed to it, and the remarks made. The events stand in the order
in which they happened, so that they tell which question was asked before which, and
which was never asked.
-/

import Parley.Cast.Basic
import Parley.Log

namespace Parley

/-- Something that happened on the way to a result. -/
inductive Event where
  /-- A condition was put to a side, which gave this verdict. -/
  | asked (side : Side) (condition : Condition) (verdict : Bool)
  /-- A notification of an option of the origin was handed out, and perhaps refused. -/
  | notified (notification : Notification) (origin : Dialog) (refusal? : Option Refusal)
  | remarked (remark : Remark)
deriving DecidableEq

/-- The remark, if the event is one. -/
def Event.remark? : Event → Option Remark
  | remarked remark => some remark
  | asked _ _ _ => none
  | notified _ _ _ => none

/-- A value and the events on the way to it, in order. -/
structure Traced (α : Type) where
  value : α
  events : List Event

namespace Traced

variable {α β : Type}

instance : Monad Traced where
  pure value := ⟨value, []⟩
  bind first next := ⟨(next first.value).value, first.events ++ (next first.value).events⟩

@[simp] theorem value_pure (a : α) : (pure a : Traced α).value = a := rfl

@[simp] theorem events_pure (a : α) : (pure a : Traced α).events = [] := rfl

@[simp] theorem value_bind (x : Traced α) (f : α → Traced β) :
    (x >>= f).value = (f x.value).value := rfl

@[simp] theorem events_bind (x : Traced α) (f : α → Traced β) :
    (x >>= f).events = x.events ++ (f x.value).events := rfl

def remark (r : Remark) : Traced Unit := ⟨(), [.remarked r]⟩

/-- The remarks made on the way, in order. -/
def remarks (x : Traced α) : List Remark := x.events.filterMap Event.remark?

end Traced

namespace Cast

variable {N P W : Type} [Collaborator N] [Collaborator P] [WorldCollaborator W]

/-- Puts a requirement to its side. -/
def ask (cast : Cast N P W) (r : Requirement) : Traced Bool :=
  let verdict := cast.meets r.side r.condition
  ⟨verdict, [.asked r.side r.condition verdict]⟩

/-- Hands a notification to its recipient. -/
def tell (cast : Cast N P W) (origin : Dialog) (n : Notification) :
    Traced (Reaction (Cast N P W)) :=
  let reaction := cast.notify n origin
  ⟨reaction, [.notified n origin reaction.refusal?]⟩

/-- Hands out notifications in order, up to the first that is refused. -/
def tellAll (cast : Cast N P W) (origin : Dialog) :
    List Notification → Traced (Reaction (Cast N P W))
  | [] => return .accepted cast
  | n :: rest => do
    let reaction ← cast.tell origin n
    match reaction.refusal? with
    | some _ => return reaction
    | none => reaction.after.tellAll origin rest

end Cast

end Parley
