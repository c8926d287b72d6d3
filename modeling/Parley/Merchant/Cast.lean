/-
# The merchant's cast

A merchant, a traveller and a village. All three remember flags. The traveller also has
gold and things, and pays nothing that exceeds the gold. The village lets everything
happen to its objects and remembers none of it.
-/

import Parley.Cast.Basic
import Parley.Text.Escape

namespace Parley.Merchant

/-- The flags that someone remembers, each once. -/
structure Flags where
  set : List String
deriving DecidableEq

namespace Flags

/-- Whether a condition asks for a flag that is set. -/
def meets (flags : Flags) (condition : Condition) : Bool :=
  match condition.kind, condition.key with
  | "flag", some name => decide (name ∈ flags.set)
  | _, _ => false

/-- Sets a flag. No other effect is supported. -/
def apply (flags : Flags) (effect : Effect) : Reaction Flags :=
  match effect.kind, effect.key with
  | "set", some name => .accepted ⟨if name ∈ flags.set then flags.set else flags.set ++ [name]⟩
  | kind, _ => .refused flags (.rejected kind "unsupported")

end Flags

/-- The character who sells. -/
structure Shopkeeper where
  flags : Flags
deriving DecidableEq

instance : Collaborator Shopkeeper where
  meets shopkeeper := shopkeeper.flags.meets
  apply shopkeeper effect _ := (shopkeeper.flags.apply effect).map fun flags => ⟨flags⟩

/-- The player. -/
structure Traveller where
  gold : Int
  items : List String
  flags : Flags
deriving DecidableEq

namespace Traveller

/-- What an effect does to the belongings of a traveller. -/
inductive Deed where
  /-- Gold is earned, or paid where the amount is negative. -/
  | earn (amount : Int)
  | receive (item : String)
deriving DecidableEq, Repr

/-- The deed of an effect, if it concerns belongings. -/
def deed? (effect : Effect) : Option Deed :=
  match effect.kind, effect.key, effect.value with
  | "add", some "gold", .int amount => some (.earn amount.toInt)
  | "give", some item, _ => some (.receive item)
  | _, _, _ => none

/-- Takes an effect. One that does not concern belongings may set a flag. -/
def apply (traveller : Traveller) (effect : Effect) : Reaction Traveller :=
  match deed? effect with
  | some (.earn amount) =>
    if traveller.gold + amount < 0 then
      .refused traveller (.rejected effect.kind "not enough gold")
    else .accepted { traveller with gold := traveller.gold + amount }
  | some (.receive item) => .accepted { traveller with items := traveller.items ++ [item] }
  | none => (traveller.flags.apply effect).map fun flags => { traveller with flags }

instance : Collaborator Traveller where
  meets traveller := traveller.flags.meets
  apply traveller effect _ := traveller.apply effect

end Traveller

/-- The world. -/
structure Village where
  flags : Flags
deriving DecidableEq

instance : Collaborator Village where
  meets village := village.flags.meets
  apply village effect _ := (village.flags.apply effect).map fun flags => ⟨flags⟩

instance : WorldCollaborator Village where
  applyToObject village _ _ _ := .accepted village

/-- Those who take part in the story. -/
abbrev Company := Cast Shopkeeper Traveller Village

/-- The company before anything has happened: the shop is open, and the traveller is
curious and has fifteen gold. -/
def company : Company where
  npc := ⟨⟨["shop_open"]⟩⟩
  player := ⟨15, [], ⟨["curious"]⟩⟩
  world := ⟨⟨[]⟩⟩

/-! ## What the player is told -/

def describe : WorldObject → String
  | .host => "Origin"
  | .named name =>
    "Named(\"" ++ String.ofList (name.toList.flatMap (Text.escape ['"'])) ++ "\")"

/-- What is told of an effect on an object. -/
def tellOfObject (object : WorldObject) (effect : Effect) (origin : Dialog) : String :=
  "--- " ++ describe object ++ " notified by dialog " ++ toString origin.id.toInt ++ ": "
    ++ effect.kind

/-- What is told of an effect on the traveller. -/
def tellOfTraveller (after : Traveller) (effect : Effect) : Option String :=
  match Traveller.deed? effect with
  | some (.earn _) => some ("--- gold: " ++ toString after.gold)
  | some (.receive item) => some ("--- received " ++ item)
  | none => none

/-- What is told of a notification that was not refused, and the company it left behind. -/
def tellOf (after : Company) (n : Notification) (origin : Dialog) : Option String :=
  match n.recipient with
  | .player => tellOfTraveller after.player n.effect
  | .origin => some (tellOfObject .host n.effect origin)
  | .object name => some (tellOfObject (.named name) n.effect origin)
  | .npc => none
  | .world => none

end Parley.Merchant
