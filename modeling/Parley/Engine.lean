/-
# The engine

The engine tells a story to a cast, one screen at a time. It keeps no place in the
story: the game hands back which screen it showed and which answer was picked, and every
gate is judged on the cast as it stands at the call.

A conversation begins with `Engine.topics` and goes on with `Engine.advance`. Both end
with at most one screen; no screen means that there is nothing more to show.
-/

import Parley.Cast.Gate
import Parley.Graph.Basic
import Parley.Screen
import Parley.Settings

namespace Parley

/-- The option that an answer chooses. -/
def Dialog.option? (d : Dialog) (answer : Int32) : Option DialogOption :=
  if answer < 0 then none else d.options[answer.toInt.toNat]?

/-- Tells a story. -/
structure Engine where
  settings : Settings
  /-- The story, if one was loaded. -/
  graph? : Option Graph
deriving DecidableEq

/-- How a picked answer was taken, and the cast it left behind. -/
structure Turn (N P W : Type) where
  /-- The next screen, if there is one, or the refusal that ended the turn. -/
  outcome : Except Refusal (Option Screen)
  /-- The cast after the notifications of the turn. -/
  cast : Cast N P W

namespace Engine

/-- An engine without a story. -/
instance : Inhabited Engine := ⟨⟨default, none⟩⟩

/-- Takes a story in place of the one before and tells whether there was one to take.
Without a story to take, the engine keeps its own. -/
def load (engine : Engine) (graph? : Option Graph) : Bool × Engine :=
  (graph?.isSome, { engine with graph? := graph?.or engine.graph? })

/-- The string of a text in a language. -/
def localize (engine : Engine) (text : LocalizedText) (language : Language) : String :=
  engine.settings.localize text language

variable {N P W : Type} [Collaborator N] [Collaborator P] [WorldCollaborator W]

/-- Whether an option can be chosen: it ends the conversation, or the dialog it leads to
may be shown. -/
def offers (engine : Engine) (cast : Cast N P W) (option : DialogOption) : Traced Bool :=
  match option.destination.id? with
  | none => return true
  | some id =>
    match engine.graph?.bind (·.get? id) with
    | none => return false
    | some next => cast.admits next

/-- The answers for those options that can be chosen, where the first of the given
options stands at a position. -/
def answersFrom (engine : Engine) (cast : Cast N P W) (language : Language) :
    Nat → List DialogOption → Traced (List Answer)
  | _, [] => return []
  | position, option :: rest => do
    let available ← engine.offers cast option
    let others ← engine.answersFrom cast language (position + 1) rest
    let answer : Answer :=
      ⟨Int32.ofNat position, engine.localize option.text language, option.tag⟩
    return if available then answer :: others else others

/-- The answer that closes a conversation in which there is nothing left to say. -/
def closingAnswer (engine : Engine) (language : Language) : Answer :=
  ⟨Answer.closing, engine.localize engine.settings.closingText language, ""⟩

/-- The answers that can be given to a dialog now. If there is none, the settings may
offer a way out. -/
def availableAnswers (engine : Engine) (cast : Cast N P W) (d : Dialog)
    (language : Language) : Traced (List Answer) := do
  if engine.graph?.isNone && d.options.any (·.destination.id?.isSome) then
    Traced.remark (.answersWithoutStory d.id)
  let answers ← engine.answersFrom cast language 0 d.options
  if answers.isEmpty && engine.settings.offersClosing then
    return [engine.closingAnswer language]
  else return answers

def single (engine : Engine) (cast : Cast N P W) (d : Dialog) (language : Language) :
    Traced Screen := do
  let answers ← engine.availableAnswers cast d language
  return .single d.id (engine.localize d.title language) (engine.localize d.text language)
    d.tag answers

/-- The screen of a dialog that may be shown now. -/
def present? (engine : Engine) (cast : Cast N P W) (d : Dialog) (language : Language) :
    Traced (Option Screen) := do
  if ← cast.admits d then return some (← engine.single cast d language) else return none

/-- The entry of a dialog in a list of topics. -/
def topic (engine : Engine) (language : Language) (d : Dialog) : Answer :=
  ⟨d.id, engine.localize d.title language, d.tag⟩

/-- What can be talked about now: nothing, the one root that may be shown, or a list of
them. -/
def topics (engine : Engine) (cast : Cast N P W) (language : Language) :
    Traced (Option Screen) := do
  match engine.graph? with
  | none =>
    Traced.remark .topicsWithoutStory
    return none
  | some graph =>
    match ← cast.admitted graph.rootDialogs with
    | [] => return none
    | [d] => return some (← engine.single cast d language)
    | ds => return some (.topics (ds.map (engine.topic language)))

/-- The screen of what was picked from a list of topics. It has to be found in the story
and may still have to be refused, since the cast can have changed. -/
def select (engine : Engine) (cast : Cast N P W) (graph : Graph) (picked : DialogId)
    (language : Language) : Traced (Option Screen) := do
  let screen? ← match graph.find? picked with
    | some d => engine.present? cast d language
    | none => pure none
  if screen?.isNone then Traced.remark (.invalidSelection picked)
  return screen?

/-- Chooses an option of a dialog: hands out its notifications, and if none is refused,
shows where it leads on the cast they left behind. -/
def choose (engine : Engine) (cast : Cast N P W) (graph : Graph) (d : Dialog)
    (option : DialogOption) (language : Language) : Traced (Turn N P W) := do
  let reaction ← cast.tellAll d option.notifications
  match reaction.refusal? with
  | some refusal => return ⟨.error refusal, reaction.after⟩
  | none =>
    match graph.next? option with
    | none => return ⟨.ok none, reaction.after⟩
    | some next =>
      let screen? ← engine.present? reaction.after next language
      return ⟨.ok screen?, reaction.after⟩

/-- Takes an answer to a screen. -/
def advance (engine : Engine) (cast : Cast N P W) (shown : DialogId) (answer : Int32)
    (language : Language) : Traced (Turn N P W) := do
  match engine.graph? with
  | none =>
    Traced.remark (.answerWithoutStory shown)
    return ⟨.ok none, cast⟩
  | some graph =>
    if shown = Screen.topicListId then
      let screen? ← engine.select cast graph answer language
      return ⟨.ok screen?, cast⟩
    else
      match graph.find? shown with
      | none =>
        Traced.remark (.dialogNotFound shown)
        return ⟨.ok none, cast⟩
      | some d =>
        match d.option? answer with
        | some option => engine.choose cast graph d option language
        | none =>
          if answer ≠ Answer.closing then Traced.remark (.answerOutOfBounds shown answer)
          return ⟨.ok none, cast⟩

end Engine

end Parley
