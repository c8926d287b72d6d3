/-
# Dialog graphs

A graph is a story that can be told: dialogs, and among them the roots with which a
conversation can begin. `Graph.ofDialogs` is the only way to make one from dialogs. It
refuses a list of dialogs for the first flaw it finds, and looks for flaws in a fixed
order: the ids of the dialogs, the roots, the destinations of the options, and loops
that no redirection closes.
-/

import Parley.Graph.Arena

namespace Parley

/-- Why dialogs cannot be made into a graph, or be changed as asked. -/
inductive GraphError where
  | duplicateId (id : DialogId)
  /-- The id is reserved for what is no dialog. -/
  | negativeId (id : DialogId)
  /-- A root is no dialog. -/
  | unknownRoot (id : DialogId)
  /-- An option of the owner leads to a dialog that is missing. -/
  | missingDestination (owner destination : DialogId)
  /-- The dialog owns itself, perhaps through others. -/
  | ownsItself (id : DialogId)
  /-- The dialog has fewer options. -/
  | noSuchOption (id : DialogId) (option : Nat)
  | noSuchDialog (id : DialogId)
deriving DecidableEq, Repr

def GraphError.message : GraphError → String
  | .duplicateId id => "multiple dialogs have same id: " ++ toString id.toInt
  | .negativeId id => "the dialog id " ++ toString id.toInt ++ " is negative"
  | .unknownRoot id => "the root dialog " ++ toString id.toInt ++ " was not found"
  | .missingDestination owner destination =>
    "the dialog " ++ toString owner.toInt ++ " has an option pointing to id "
      ++ toString destination.toInt ++ " which was not found"
  | .ownsItself id =>
    "the dialog " ++ toString id.toInt ++ " loops back on itself without a redirection"
  | .noSuchOption id option =>
    "the dialog " ++ toString id.toInt ++ " has no option " ++ toString option
  | .noSuchDialog id => "the dialog " ++ toString id.toInt ++ " does not exist"

namespace Arena

/-- Adds a dialog under its own id, which must be free and not negative. -/
def add (arena : Arena) (d : Dialog) : Except GraphError Arena :=
  if d.id < 0 then .error (.negativeId d.id)
  else if present : d.id ∈ arena then .error (.duplicateId d.id)
  else .ok (arena.push d.id d present)

/-- The first destination that is missing, with the dialog whose option leads there. -/
def missingDestination? (arena : Arena) : Option (DialogId × DialogId) :=
  arena.values.findSome? fun d =>
    d.options.findSome? fun option =>
      match option.destination.id? with
      | none => none
      | some id => if id ∈ arena then none else some (d.id, id)

/-- The first flaw that keeps an arena from being a story with these roots. -/
def flaw? (arena : Arena) (roots : List DialogId) : Option GraphError :=
  match roots.find? fun root => root ∉ arena with
  | some root => some (.unknownRoot root)
  | none =>
    match arena.missingDestination? with
    | some (owner, destination) => some (.missingDestination owner destination)
    | none =>
      match arena.finish [] arena.keys [] with
      | .error id => some (.ownsItself id)
      | .ok _ => none

end Arena

/-- A story that can be told. -/
structure Graph where
  dialogs : Arena
  /-- The dialogs with which a conversation can begin, in the order of the author. -/
  roots : List DialogId
deriving DecidableEq

namespace Graph

/-- The story without dialogs. -/
instance : Inhabited Graph := ⟨⟨∅, []⟩⟩

/-- Makes dialogs into a story, or names the first flaw. -/
def ofDialogs (dialogs : List Dialog) (roots : List DialogId) : Except GraphError Graph := do
  let arena ← dialogs.foldlM Arena.add ∅
  match arena.flaw? roots with
  | some flaw => throw flaw
  | none => return ⟨arena, roots⟩

/-- The dialogs in the order of the author. -/
def toList (g : Graph) : List Dialog := g.dialogs.values

def size (g : Graph) : Nat := g.dialogs.size

def isEmpty (g : Graph) : Bool := g.dialogs.isEmpty

/-- The dialog of an id, whether or not a conversation can come to it. -/
def get? (g : Graph) (id : DialogId) : Option Dialog := g.dialogs.get? id

/-- The dialogs with which a conversation can begin. -/
def rootDialogs (g : Graph) : List Dialog := g.roots.filterMap g.get?

/-- The dialog that an option leads to, redirections included. -/
def next? (g : Graph) (option : DialogOption) : Option Dialog :=
  option.destination.id?.bind g.get?

/-- The dialog of an id, sought from the roots through ownership. A dialog that only
redirections lead to is not found. -/
def find? (g : Graph) (id : DialogId) : Option Dialog :=
  (g.dialogs.walk [] g.roots).findSome? fun met =>
    (g.get? met).filter fun d => d.id == id

/-- A dialog and all that it owns, itself first. -/
def chain (g : Graph) (root : DialogId) : List DialogId := g.dialogs.chain root

/-- The dialogs of a chain to which an option of the owner may redirect: all but the
owner itself. -/
def redirectCandidates (g : Graph) (root owner : DialogId) : List DialogId :=
  (g.chain root).filter fun id => id ≠ owner

/-- Whether two graphs tell the same story: the same roots in the same order, and the
same dialogs in any order. -/
def isEqv (a b : Graph) : Bool :=
  a.dialogs.isEqv Dialog.isEqv b.dialogs && a.roots == b.roots

end Graph

end Parley
