/-
# Assets

A host keeps stories as assets and reports what happens to them by events. A change is
seen in the assets at once, but its event is queued: it is sent when the queue is next
flushed, and then read once. A story that was read from a file waits until it is taken
up. It is then reported twice: at once, because nothing it depends on is missing, and
with the next flush like any other change.
-/

import Parley.Graph.Basic

namespace Parley

/-- Stands for a story that is kept as an asset, whether or not it still is. -/
inductive Handle where
  | file
  /-- A story that the game added, by its serial number. -/
  | added (serial : Nat)
deriving DecidableEq, Repr

/-- What happened to an asset. -/
inductive AssetEvent where
  | added (handle : Handle)
  | modified (handle : Handle)
  /-- The story was loaded from a file, and nothing is missing. -/
  | loaded (handle : Handle)
  | removed (handle : Handle)
deriving DecidableEq, Repr

/-- The asset that may now hold another story than before. -/
def AssetEvent.changed? : AssetEvent → Option Handle
  | added handle => some handle
  | modified handle => some handle
  | loaded handle => some handle
  | removed _ => none

/-- The stories that a host keeps. -/
structure Assets where
  stories : OrderedMap Handle Graph
  /-- How many stories the game has added. -/
  serial : Nat
  /-- Stories that were read from the dialog file and not yet taken up, oldest first. -/
  arrived : List Graph
  /-- Events to send at the next flush. -/
  queued : List AssetEvent
  /-- Events that were sent and not yet read. -/
  sent : List AssetEvent
deriving DecidableEq

namespace Assets

instance : EmptyCollection Assets := ⟨⟨∅, 0, [], [], []⟩⟩

/-- The story of an asset, if it is there. -/
def get? (assets : Assets) (handle : Handle) : Option Graph := assets.stories.get? handle

/-- Adds a story as a new asset. -/
def add (assets : Assets) (g : Graph) : Handle × Assets :=
  let handle := Handle.added assets.serial
  (handle, { assets with
    stories := assets.stories.insert handle g
    serial := assets.serial + 1
    queued := assets.queued ++ [.added handle] })

/-- Replaces the story of an asset, if it is there, and tells whether it was. -/
def modify (assets : Assets) (handle : Handle) (g : Graph) : Bool × Assets :=
  if handle ∈ assets.stories then
    (true, { assets with
      stories := assets.stories.insert handle g
      queued := assets.queued ++ [.modified handle] })
  else (false, assets)

/-- Removes an asset, if it is there, and tells whether it was. -/
def remove (assets : Assets) (handle : Handle) : Bool × Assets :=
  if handle ∈ assets.stories then
    (true, { assets with
      stories := assets.stories.erase handle
      queued := assets.queued ++ [.removed handle] })
  else (false, assets)

/-- Lets a story of the dialog file wait to be taken up. -/
def arrive (assets : Assets) (g : Graph) : Assets :=
  { assets with arrived := assets.arrived ++ [g] }

/-- Puts a story of the dialog file in its place. -/
def putFile (assets : Assets) (g : Graph) : Assets :=
  let change := if .file ∈ assets.stories then AssetEvent.modified .file else .added .file
  { assets with
    stories := assets.stories.insert .file g
    queued := assets.queued ++ [change]
    sent := assets.sent ++ [.loaded .file] }

/-- Takes up the stories that have arrived. -/
def takeUp (assets : Assets) : Assets :=
  assets.arrived.foldl putFile { assets with arrived := [] }

def flush (assets : Assets) : Assets :=
  { assets with
    sent := assets.sent ++ assets.queued
    queued := [] }

def read (assets : Assets) : List AssetEvent × Assets :=
  (assets.sent, { assets with sent := [] })

end Assets

end Parley
