/-
# Drafts

A draft is a story while it is being written. It hands out the ids of new dialogs and
lets options own, redirect and end. What is written need not yet make sense: options of
new dialogs may lead anywhere, and only `Draft.build` checks that the dialogs form a
graph.

Each operation returns the draft it leaves behind. Where a refusal cannot have changed
anything, the draft stands inside the success. `Draft.addOwned` clears what the option
owned before it links the new dialog. If the option's own dialog goes with what is
cleared, the link fails, and the draft keeps the changes: so its draft stands beside the
result.
-/

import Parley.Draft.IdPool

namespace Parley

namespace Destination

/-- Ends the conversation where it would go on with one of the given dialogs. -/
def unlink (removed : List DialogId) (destination : Destination) : Destination :=
  if destination.id?.any (· ∈ removed) then ending else destination

end Destination

namespace Dialog

def mapDestinations (d : Dialog) (change : Destination → Destination) : Dialog :=
  { d with
    options := d.options.map fun option =>
      { option with destination := change option.destination } }

def setDestination (d : Dialog) (option : Nat) (destination : Destination) : Dialog :=
  { d with options := d.options.modify option fun o => { o with destination } }

end Dialog

/-- A story that is being written. -/
structure Draft where
  /-- The dialogs, each under the id that it was given when it was added. -/
  dialogs : Arena
  /-- The dialogs with which a conversation can begin. -/
  roots : List DialogId
  ids : IdPool
deriving DecidableEq

namespace Draft

/-- The draft without dialogs. -/
instance : Inhabited Draft := ⟨⟨∅, [], ∅⟩⟩

/-- Goes on writing a finished story. -/
def ofGraph (g : Graph) : Draft := ⟨g.dialogs, g.roots, .ofGraph g⟩

/-- Adds a dialog under the lowest free id. The id it came with is forgotten. -/
def add (draft : Draft) (d : Dialog) : DialogId × Draft :=
  let (id, ids) := draft.ids.reserve
  (id, { draft with dialogs := draft.dialogs.insert id { d with id }, ids })

/-- Adds a dialog with which a conversation can begin. -/
def addRoot (draft : Draft) (d : Dialog) : DialogId × Draft :=
  let (id, added) := draft.add d
  (id, { added with roots := added.roots ++ [id] })

/-- The dialog of an id, which must be there. -/
def dialog (draft : Draft) (id : DialogId) : Except GraphError Dialog :=
  match draft.dialogs.get? id with
  | some d => .ok d
  | none => .error (.noSuchDialog id)

/-- Where an option of a dialog leads. The dialog must be there and have the option. -/
def destination (draft : Draft) (parent : DialogId) (option : Nat) :
    Except GraphError Destination := do
  let d ← draft.dialog parent
  match d.options[option]? with
  | some o => return o.destination
  | none => throw (.noSuchOption parent option)

/-- Changes where an option of a dialog leads. -/
def setDestination (draft : Draft) (parent : DialogId) (option : Nat)
    (destination : Destination) : Except GraphError Draft := do
  let _ ← draft.destination parent option
  return { draft with
    dialogs := draft.dialogs.modify parent (·.setDestination option destination) }

/-- Gives a dialog one more option and returns its position. -/
def addOption (draft : Draft) (parent : DialogId) (option : DialogOption) :
    Except GraphError (Nat × Draft) := do
  let d ← draft.dialog parent
  return (d.options.length, { draft with
    dialogs := draft.dialogs.modify parent fun d => { d with options := d.options ++ [option] } })

/-- Removes a dialog with all that it owns and frees the ids. Options that led to what is
removed end the conversation. Returns the ids that were met on the way. -/
def remove (draft : Draft) (id : DialogId) : List DialogId × Draft :=
  let removed := draft.dialogs.chain id
  (removed,
    { dialogs :=
        (removed.foldl OrderedMap.erase draft.dialogs).mapValues fun d =>
          d.mapDestinations (·.unlink removed)
      roots := draft.roots.filter (· ∉ removed)
      ids := draft.ids.releaseAll removed })

/-- Adds a dialog that an option owns. What the option owned before is removed. -/
def addOwned (draft : Draft) (parent : DialogId) (option : Nat) (d : Dialog) :
    Except GraphError DialogId × Draft :=
  match draft.destination parent option with
  | .error e => (.error e, draft)
  | .ok previous =>
    let cleared := match previous.owned? with
      | some owned => (draft.remove owned).2
      | none => draft
    let (id, added) := cleared.add d
    match added.setDestination parent option (.dialog id) with
    | .error e => (.error e, added)
    | .ok linked => (.ok id, linked)

/-- Lets an option lead to a dialog that is owned elsewhere. -/
def redirect (draft : Draft) (parent : DialogId) (option : Nat) (target : DialogId) :
    Except GraphError Draft := do
  let _ ← draft.dialog target
  draft.setDestination parent option (.redirect target)

/-- Lets an option end the conversation. What it owned stays in the draft. -/
def close (draft : Draft) (parent : DialogId) (option : Nat) : Except GraphError Draft :=
  draft.setDestination parent option .ending

/-- Changes a dialog in place and tells whether it was there. The dialog stays under the
id it was added with, even if it now carries another. -/
def revise (draft : Draft) (id : DialogId) (change : Dialog → Dialog) : Bool × Draft :=
  (decide (id ∈ draft.dialogs), { draft with dialogs := draft.dialogs.modify id change })

/-- The finished story, or its first flaw. -/
def build (draft : Draft) : Except GraphError Graph :=
  Graph.ofDialogs draft.dialogs.values draft.roots

end Draft

end Parley
