/-
# Screens

What a game shows and lets the player choose from. A screen shows a single dialog or
lists topics. The game hands back the id of the screen and the index of the answer that
was picked, so both are numbers, and two values outside the ids of dialogs and the
positions of options serve for what is neither.
-/

import Parley.Dialog

namespace Parley

/-- A choice of the player. -/
structure Answer where
  /-- What the game hands back: the position of an option on the screen of a dialog, the
  id of a dialog in a list of topics, or `Answer.closing`. -/
  index : Int32
  text : String
  tag : String
deriving DecidableEq, Repr

namespace Answer

/-- The index of an answer that closes the conversation and chooses no option. -/
def closing : Int32 := -1

/-- Whether the answer closes the conversation. -/
def closes (answer : Answer) : Bool := answer.index == closing

end Answer

/-- What is shown. -/
inductive Screen where
  /-- A dialog with the answers to it. -/
  | single (id : DialogId) (title text tag : String) (answers : List Answer)
  /-- The topics to choose from. -/
  | topics (answers : List Answer)
deriving DecidableEq, Repr

namespace Screen

/-- The id of a screen that shows no dialog. -/
def topicListId : DialogId := -1

/-- The dialog shown, or the id of a list of topics. -/
def id : Screen → DialogId
  | single id _ _ _ _ => id
  | topics _ => topicListId

/-- The title. A list of topics has none. -/
def title : Screen → String
  | single _ title _ _ _ => title
  | topics _ => ""

/-- What is said. A list of topics says nothing. -/
def text : Screen → String
  | single _ _ text _ _ => text
  | topics _ => ""

def tag : Screen → String
  | single _ _ _ tag _ => tag
  | topics _ => ""

def answers : Screen → List Answer
  | single _ _ _ _ answers => answers
  | topics answers => answers

def isTopicList : Screen → Bool
  | topics _ => true
  | single _ _ _ _ _ => false

end Screen

end Parley
