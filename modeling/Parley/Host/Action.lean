/-
# What a host can be asked to do

The operations on hosts as data, so that a run of an application is a list.
-/

import Parley.Host.Basic

namespace Parley.Host

/-- One step of a run. -/
inductive Action where
  | update
  /-- Lets enough frames pass for everything under way to arrive. -/
  | settle
  | add (name : String) (graph : Graph)
  | modify (name : String) (graph : Graph)
  | remove (name : String)
  | save (name? : Option String)
  | write (path : String) (file : StoredFile)
  | reload (path : String)
  | configure (settings : Settings)

/-- What a step replies. -/
inductive Reply where
  | done
  /-- Whether the asset was there. -/
  | found (found : Bool)
  /-- How the saved asset was loaded, if it comes from a file. -/
  | state (state? : Option LoadState)
  | settings (settings : Settings)
deriving DecidableEq

/-- The number of frames after which nothing is under way any more. -/
def settlingFrames : Nat := 12

def perform (host : Host) : Action → Reply × List Notice × Host
  | .update => (.done, host.frame)
  | .settle =>
    let (notices, after) := host.frames settlingFrames
    (.state after.loadState?, notices, after)
  | .add name g => (.done, [], host.add name g)
  | .modify name g =>
    let (found, after) := host.modify name g
    (.found found, [], after)
  | .remove name =>
    let (found, after) := host.remove name
    (.found found, [], after)
  | .save name? => (.done, [], host.save name?)
  | .write path file => (.done, [], host.write path file)
  | .reload path => (.done, host.reload path)
  | .configure settings =>
    (.settings settings, [], { host with engine := { host.engine with settings } })

def performAll (host : Host) (actions : List Action) : Host :=
  actions.foldl (fun host action => (host.perform action).2.2) host

end Parley.Host
