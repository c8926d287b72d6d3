/-
# Ledgers

A cast that keeps books: each side has a set of flags and a table of counters, conditions
look them up and effects change them. It knows enough kinds of conditions and effects to
play a story through, and its world can keep a list of named objects, whose effects go
into the books of the world.
-/

import Parley.Cast.Traced
import Parley.Floating.Rounding

namespace Parley

def Side.name : Side → String
  | .npc => "npc"
  | .player => "player"
  | .world => "world"

/-- The books of a side. -/
structure Ledger where
  side : Side
  /-- The flags that are set, each once. -/
  flags : List String
  /-- The counters that were ever touched. -/
  counters : OrderedMap String Int64
deriving DecidableEq

namespace Ledger

/-- The books of a side before anything was entered. -/
def empty (side : Side) : Ledger := ⟨side, [], ∅⟩

def hasFlag (ledger : Ledger) (flag : String) : Bool := decide (flag ∈ ledger.flags)

/-- Sets a flag and tells whether that changed anything. -/
def setFlag (ledger : Ledger) (flag : String) : Bool × Ledger :=
  if ledger.hasFlag flag then (false, ledger)
  else (true, { ledger with flags := ledger.flags ++ [flag] })

/-- Clears a flag and tells whether that changed anything. -/
def clearFlag (ledger : Ledger) (flag : String) : Bool × Ledger :=
  (ledger.hasFlag flag, { ledger with flags := ledger.flags.erase flag })

/-- The value of a counter, zero before it was touched. -/
def count (ledger : Ledger) (counter : String) : Int64 :=
  (ledger.counters.get? counter).getD 0

def setCounter (ledger : Ledger) (counter : String) (value : Int64) : Ledger :=
  { ledger with counters := ledger.counters.insert counter value }

/-- The sum of two counts, where it can be written. -/
def sum? (a b : Int64) : Option Int64 :=
  let sum := a.toInt + b.toInt
  if Int64.minValue.toInt ≤ sum ∧ sum ≤ Int64.maxValue.toInt then some (Int64.ofInt sum) else none

/-- The flags, ordered by their characters. -/
def sortedFlags (ledger : Ledger) : List String :=
  ledger.flags.mergeSort fun a b => decide (a ≤ b)

/-- The counters, ordered by the characters of their names. -/
def sortedCounters (ledger : Ledger) : List (String × Int64) :=
  ledger.counters.entries.mergeSort fun a b => decide (a.1 ≤ b.1)

/-- Whether the books meet a condition. A condition of an unknown kind, or with a value
that its kind does not take, is not met. -/
def meets (ledger : Ledger) (condition : Condition) : Bool :=
  let key := condition.key.getD ""
  let count := ledger.count key
  match condition.kind, condition.value with
  | "flag", _ => ledger.hasFlag key
  | "not_flag", _ => !ledger.hasFlag key
  | "at_least", .int least => decide (least ≤ count)
  | "at_least", .float least => least.le (.ofInt _ count.toInt)
  | "at_least", .seconds least => least.le (.ofInt _ count.toInt)
  | "is", .bool value => value
  | "is", .text flag => ledger.hasFlag flag
  | "has_key", _ => condition.key.isSome
  | _, _ => false

/-- Enters an effect. One of an unknown kind changes nothing. -/
def apply (ledger : Ledger) (effect : Effect) : Reaction Ledger :=
  let key := effect.key.getD ""
  match effect.kind, effect.value with
  | "set", _ => .accepted (ledger.setFlag key).2
  | "unset", _ => .accepted (ledger.clearFlag key).2
  | "add", .int amount =>
    match sum? (ledger.count key) amount with
    | some sum => .accepted (ledger.setCounter key sum)
    | none => .refused ledger (.rejected effect.kind "overflow")
  | "fail", _ => .refused ledger (.rejected effect.kind (ledger.side.name ++ " refuses"))
  | "lost", _ => .refused ledger (.unknownObject key)
  | _, _ => .accepted ledger

instance : Collaborator Ledger where
  meets := meets
  apply ledger effect _ := ledger.apply effect

/-- The books of the world, with the objects it keeps, if it keeps any. -/
structure World where
  ledger : Ledger
  objects? : Option (List String)
deriving DecidableEq

namespace World

/-- Enters an effect into the books of the world. -/
def apply (world : World) (effect : Effect) : Reaction World :=
  (world.ledger.apply effect).map fun ledger => { world with ledger }

instance : Collaborator World where
  meets world := world.ledger.meets
  apply world effect _ := world.apply effect

instance : WorldCollaborator World where
  applyToObject world object effect origin :=
    match world.objects?, object with
    | none, _ => object.applyToWorld world effect origin
    | some _, .host => world.apply effect
    | some names, .named name =>
      if name ∈ names then world.apply effect else .refused world (.unknownObject name)

end World

/-- A cast that keeps books. -/
abbrev Books := Cast Ledger Ledger World

/-- The books of all three before anything was entered, in a world that keeps no objects. -/
def Books.empty : Books := ⟨.empty .npc, .empty .player, ⟨.empty .world, none⟩⟩

/-- Changes the books of a side, which may report something. -/
def Books.update {α : Type} (books : Books) (side : Side) (change : Ledger → α × Ledger) :
    α × Books :=
  match side with
  | .npc =>
    let (report, npc) := change books.npc
    (report, { books with npc })
  | .player =>
    let (report, player) := change books.player
    (report, { books with player })
  | .world =>
    let (report, ledger) := change books.world.ledger
    (report, { books with world := { books.world with ledger } })

/-! ## The journal -/

/-- Under which heading an effect is entered. -/
inductive Heading where
  | side (side : Side)
  /-- The object that hosts the conversation, in a world that keeps objects. -/
  | host
  | object (name : String)
deriving DecidableEq, Repr

/-- A line of the journal. -/
inductive Entry where
  | asked (side : Side) (condition : Condition) (verdict : Bool)
  | applied (heading : Heading) (effect : Effect) (origin : Dialog) (refusal? : Option Refusal)
deriving DecidableEq

/-- The heading for a recipient. What is meant for an object that is not kept is never
entered. -/
def World.heading? (world : World) : Recipient → Option Heading
  | .npc => some (.side .npc)
  | .player => some (.side .player)
  | .world => some (.side .world)
  | .origin => some (if world.objects?.isNone then .side .world else .host)
  | .object name =>
    if world.objects?.any (name ∈ ·) then some (.object name) else none

/-- The line of the journal for an event. -/
def World.entry? (world : World) : Event → Option Entry
  | .asked side condition verdict => some (.asked side condition verdict)
  | .notified n origin refusal? =>
    (world.heading? n.recipient).map fun heading => .applied heading n.effect origin refusal?
  | .remarked _ => none

/-- The journal of what happened. -/
def World.journal (world : World) (events : List Event) : List Entry :=
  events.filterMap world.entry?

end Ledger

end Parley
