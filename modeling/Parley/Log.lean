/-
# Log lines

What the library reports to the author of a story or the game, apart from its results:
requests that make no sense, and the fate of dialog files. A report is a cause with
its data; its line in a log is read off it.
-/

import Parley.Dialog

namespace Parley

/-- How much a log line matters. -/
inductive Level where
  | debug
  | info
  | warning
  | error
deriving DecidableEq, Repr

/-- The level as it stands before a line. -/
def Level.label : Level → String
  | debug => "DEBUG"
  | info => "INFO"
  | warning => "WARN"
  | error => "ERROR"

/-- A line of a log. -/
structure LogLine where
  level : Level
  message : String
deriving DecidableEq, Repr

def LogLine.render (line : LogLine) : String := line.level.label ++ " " ++ line.message

/-- Why a request for a screen or for answers made no sense. -/
inductive Remark where
  | topicsWithoutStory
  | answerWithoutStory (dialog : DialogId)
  /-- What was picked from a list of topics is no dialog that may be shown. -/
  | invalidSelection (picked : DialogId)
  /-- The answered dialog is not found in the story. -/
  | dialogNotFound (dialog : DialogId)
  /-- The answered dialog has no such option. -/
  | answerOutOfBounds (dialog : DialogId) (answer : Int32)
  /-- Answers that lead on were requested without a story. -/
  | answersWithoutStory (dialog : DialogId)
deriving DecidableEq, Repr

def Remark.line : Remark → LogLine
  | topicsWithoutStory => ⟨.warning, "topics requested but no dialogs are loaded"⟩
  | answerWithoutStory dialog =>
    ⟨.warning, "answer to dialog " ++ toString dialog.toInt
      ++ " received but no dialogs are loaded"⟩
  | invalidSelection picked =>
    ⟨.warning, "selection " ++ toString picked.toInt ++ " from topic list invalid"⟩
  | dialogNotFound dialog => ⟨.debug, "dialog " ++ toString dialog.toInt ++ " not found"⟩
  | answerOutOfBounds dialog answer =>
    ⟨.warning, "answer index " ++ toString answer.toInt ++ " out of bounds for dialog "
      ++ toString dialog.toInt⟩
  | answersWithoutStory dialog =>
    ⟨.debug, "answers of dialog " ++ toString dialog.toInt
      ++ " requested but no dialogs are loaded, only ending options are kept"⟩

end Parley
