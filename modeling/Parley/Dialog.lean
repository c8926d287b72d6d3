/-
# Dialogs

A dialog is what is said on one screen, under what requirements it is said, and the
options to answer it with. An option leads to a dialog that it owns, redirects to a
dialog that is owned elsewhere, or ends the conversation. Ownership shapes a story into
chains, and redirections close the loops.
-/

import Parley.LocalizedText
import Parley.Notification
import Parley.Requirement

namespace Parley

/-- Names a dialog within its story. Dialogs have ids from zero up. The negative ids are
free for screens that show no dialog and for answers that choose no option. -/
abbrev DialogId := Int32

/-- Where an option leads. -/
inductive Destination where
  | ending
  /-- A dialog that the option owns. -/
  | dialog (id : DialogId)
  /-- A dialog that is owned elsewhere. -/
  | redirect (id : DialogId)
deriving DecidableEq, Repr

namespace Destination

instance : Inhabited Destination := ⟨ending⟩

/-- The dialog that is shown next, owned or not. -/
def id? : Destination → Option DialogId
  | ending => none
  | dialog id => some id
  | redirect id => some id

def owned? : Destination → Option DialogId
  | dialog id => some id
  | ending => none
  | redirect _ => none

/-- Whether the dialog that is shown next is owned elsewhere. -/
def isRedirect : Destination → Bool
  | redirect _ => true
  | ending => false
  | dialog _ => false

end Destination

/-- An answer that the player can give. -/
structure DialogOption where
  text : LocalizedText
  tag : String
  /-- What happens when the option is chosen, in order. -/
  notifications : List Notification
  destination : Destination
deriving DecidableEq

namespace DialogOption

instance : Inhabited DialogOption := ⟨⟨default, "", [], .ending⟩⟩

/-- Whether two options say and do the same. -/
def isEqv (a b : DialogOption) : Bool :=
  a.text.isEqv b.text && a.tag == b.tag
    && a.notifications.isEqv b.notifications Notification.isEqv
    && a.destination == b.destination

end DialogOption

/-- What is said on one screen. -/
structure Dialog where
  id : DialogId
  /-- The title, shown where topics are listed. -/
  title : LocalizedText
  text : LocalizedText
  tag : String
  mode : Mode
  /-- What must hold for the dialog to be shown. -/
  requirements : List Requirement
  options : List DialogOption
deriving DecidableEq

namespace Dialog

instance : Inhabited Dialog := ⟨⟨0, default, default, "", .all, [], []⟩⟩

/-- Whether two dialogs are the same in all that they say, require and offer. -/
def isEqv (a b : Dialog) : Bool :=
  a.id == b.id && a.title.isEqv b.title && a.text.isEqv b.text && a.tag == b.tag
    && a.mode == b.mode
    && a.requirements.isEqv b.requirements Requirement.isEqv
    && a.options.isEqv b.options DialogOption.isEqv

/-- The dialogs that the options own, in option order. -/
def ownedIds (d : Dialog) : List DialogId :=
  d.options.filterMap fun option => option.destination.owned?

end Dialog

end Parley
