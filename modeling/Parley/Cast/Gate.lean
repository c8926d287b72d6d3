/-
# Gates

The requirements of a dialog stand before it like a gate. They are put to the cast in
their order, and the first one that decides ends the questioning: one that fails where
all must hold, or one that holds where any suffices.
-/

import Parley.Cast.Traced

namespace Parley

/-- The verdict on one requirement that decides for all of them. Where none decides, the
gate answers the opposite. -/
def Mode.decisive : Mode → Bool
  | .all => false
  | .any => true

namespace Cast

variable {N P W : Type} [Collaborator N] [Collaborator P] [WorldCollaborator W]

/-- Whether requirements pass, asking no further than needed. -/
def passes (cast : Cast N P W) (mode : Mode) : List Requirement → Traced Bool
  | [] => return !mode.decisive
  | r :: rest => do
    let verdict ← cast.ask r
    if verdict = mode.decisive then return verdict else cast.passes mode rest

/-- Whether a dialog may be shown. -/
def admits (cast : Cast N P W) (d : Dialog) : Traced Bool := cast.passes d.mode d.requirements

/-- The dialogs that may be shown, in their order. Each of them is asked about, however
often it occurs. -/
def admitted (cast : Cast N P W) : List Dialog → Traced (List Dialog)
  | [] => return []
  | d :: rest => do
    let passes ← cast.admits d
    let others ← cast.admitted rest
    return if passes then d :: others else others

end Cast

end Parley
