/-
# Edits of a draft

The operations on drafts as data, so that a history of writing is a list. Every edit
leaves a draft behind, whether or not it was refused.
-/

import Parley.Draft.Basic

namespace Parley.Draft

/-- One step of writing. -/
inductive Edit where
  | addRoot (dialog : Dialog)
  | addOption (parent : DialogId) (option : DialogOption)
  | addOwned (parent : DialogId) (option : Nat) (dialog : Dialog)
  | redirect (parent : DialogId) (option : Nat) (target : DialogId)
  | close (parent : DialogId) (option : Nat)
  | remove (id : DialogId)
  | revise (id : DialogId) (change : Dialog → Dialog)

/-- What an edit reports. -/
inductive Report where
  | added (id : DialogId)
  /-- An option was added at this position. -/
  | placed (position : Nat)
  | linked
  /-- These ids were cleared. -/
  | removed (ids : List DialogId)
  /-- The dialog to revise was there, or was not. -/
  | revised (found : Bool)
  | refused (error : GraphError)
deriving DecidableEq, Repr

/-- Reports on an edit that changes nothing when it is refused. -/
def orKeep {α : Type} (draft : Draft) (report : α → Report × Draft) :
    Except GraphError α → Report × Draft
  | .ok value => report value
  | .error e => (.refused e, draft)

def perform (draft : Draft) : Edit → Report × Draft
  | .addRoot d =>
    let (id, after) := draft.addRoot d
    (.added id, after)
  | .addOption parent option =>
    draft.orKeep (fun (position, after) => (.placed position, after))
      (draft.addOption parent option)
  | .addOwned parent option d =>
    match draft.addOwned parent option d with
    | (.ok id, after) => (.added id, after)
    | (.error e, after) => (.refused e, after)
  | .redirect parent option target =>
    draft.orKeep (fun after => (.linked, after)) (draft.redirect parent option target)
  | .close parent option =>
    draft.orKeep (fun after => (.linked, after)) (draft.close parent option)
  | .remove id =>
    let (ids, after) := draft.remove id
    (.removed ids, after)
  | .revise id change =>
    let (found, after) := draft.revise id change
    (.revised found, after)

/-- The draft after a history of edits. -/
def performAll (draft : Draft) (edits : List Edit) : Draft :=
  edits.foldl (fun draft edit => (draft.perform edit).2) draft

end Parley.Draft
