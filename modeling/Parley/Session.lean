/-
# Sessions

A session is an engine, a cast and the screen that the game shows. The player picks from
that screen; the game may also ask out of turn, load another story, or change settings
and cast between two requests. A turn that ends in a refusal leaves the screen as it is.
-/

import Parley.Engine

namespace Parley

/-- A running conversation. -/
structure Session (N P W : Type) where
  engine : Engine
  cast : Cast N P W
  /-- The screen shown, if any. -/
  screen? : Option Screen

namespace Session

/-- Where a request for answers finds its dialog. -/
inductive Subject where
  /-- In the story, by id. -/
  | listed (id : DialogId)
  /-- Anywhere else. -/
  | given (dialog : Dialog)
deriving DecidableEq

/-- What can be asked of a session. -/
inductive Request (N P W : Type) where
  | topics (language : Language)
  | advance (shown : DialogId) (answer : Int32) (language : Language)
  /-- Takes the answer at a position of the screen that is shown. -/
  | pick (position : Nat) (language : Language)
  /-- Asks which answers a dialog has now. -/
  | answers (subject : Subject) (language : Language)
  /-- Loads a story, if there is one. -/
  | load (graph? : Option Graph)
  | configure (settings : Settings)
  | status
  | recast (change : Cast N P W → Cast N P W)

/-- What a session replies. -/
inductive Reply where
  | shown (screen? : Option Screen)
  | refused (refusal : Refusal)
  /-- There is no answer at the position picked. -/
  | noSuchAnswer
  /-- The answers of a dialog, if it was found. -/
  | answers (answers? : Option (List Answer))
  /-- Whether there was a story to load. -/
  | loaded (taken : Bool)
  /-- The settings in force. -/
  | settings (settings : Settings)
  | status (graph? : Option Graph)
  | recast
deriving DecidableEq

variable {N P W : Type} [Collaborator N] [Collaborator P] [WorldCollaborator W]

/-- Takes an answer to a screen. -/
def advance (s : Session N P W) (shown : DialogId) (answer : Int32) (language : Language) :
    Traced (Reply × Session N P W) := do
  let turn ← s.engine.advance s.cast shown answer language
  match turn.outcome with
  | .ok screen? => return (.shown screen?, { s with cast := turn.cast, screen? })
  | .error refusal => return (.refused refusal, { s with cast := turn.cast })

/-- The screen that is shown and its answer at a position. -/
def answerAt? (s : Session N P W) (position : Nat) : Option (Screen × Answer) := do
  let screen ← s.screen?
  let answer ← screen.answers[position]?
  return (screen, answer)

/-- The dialog of a request for answers. -/
def subject? (s : Session N P W) : Subject → Option Dialog
  | .listed id => s.engine.graph?.bind (·.get? id)
  | .given d => some d

def perform (s : Session N P W) : Request N P W → Traced (Reply × Session N P W)
  | .topics language => do
    let screen? ← s.engine.topics s.cast language
    return (.shown screen?, { s with screen? })
  | .advance shown answer language => s.advance shown answer language
  | .pick position language =>
    match s.answerAt? position with
    | none => return (.noSuchAnswer, s)
    | some (screen, answer) => s.advance screen.id answer.index language
  | .answers subject language =>
    match s.subject? subject with
    | none => return (.answers none, s)
    | some d => do
      let answers ← s.engine.availableAnswers s.cast d language
      return (.answers (some answers), s)
  | .load graph? =>
    let (taken, engine) := s.engine.load graph?
    return (.loaded taken, { s with engine })
  | .configure settings =>
    return (.settings settings, { s with engine := { s.engine with settings } })
  | .status => return (.status s.engine.graph?, s)
  | .recast change => return (.recast, { s with cast := change s.cast })

def performAll (s : Session N P W) : List (Request N P W) → Traced (List Reply × Session N P W)
  | [] => return ([], s)
  | request :: rest => do
    let (reply, after) ← s.perform request
    let (replies, last) ← after.performAll rest
    return (reply :: replies, last)

end Session

end Parley
