/-
# Open gates

The engine asks about requirements one after the other and stops when the verdict is
clear. What it comes to does not depend on that: a dialog is admitted when all of its
requirements are met, or one of them where any suffices. `Cast.Admits` says so without
asking, and the lemmas of this module replace the questions by it.
-/

import Parley.Cast.Gate
import Parley.Graph.Basic

namespace Parley

variable {N P W : Type} [Collaborator N] [Collaborator P] [WorldCollaborator W]

namespace Cast

/-- All requirements are met, or one of them where any suffices. -/
def Satisfies (cast : Cast N P W) (requirements : List Requirement) : Mode → Prop
  | .all => ∀ r ∈ requirements, cast.meets r.side r.condition = true
  | .any => ∃ r ∈ requirements, cast.meets r.side r.condition = true

/-- The requirements of a dialog pass on a cast. -/
def Admits (cast : Cast N P W) (d : Dialog) : Prop := cast.Satisfies d.requirements d.mode

theorem value_passes_iff {cast : Cast N P W} {mode : Mode} {requirements : List Requirement} :
    (cast.passes mode requirements).value = true ↔ cast.Satisfies requirements mode := by
  induction requirements with
  | nil => cases mode <;> simp [passes, Mode.decisive, Satisfies]
  | cons r rest ih =>
      cases mode <;> cases met : cast.meets r.side r.condition
      · simp [passes, ask, Mode.decisive, Satisfies, met]
      · simpa [passes, ask, Mode.decisive, Satisfies, met] using ih
      · simpa [passes, ask, Mode.decisive, Satisfies, met] using ih
      · simp [passes, ask, Mode.decisive, Satisfies, met]

theorem value_admits_iff {cast : Cast N P W} {d : Dialog} :
    (cast.admits d).value = true ↔ cast.Admits d :=
  value_passes_iff

instance (cast : Cast N P W) : DecidablePred cast.Admits :=
  fun _ => decidable_of_iff _ value_admits_iff

theorem value_admits (cast : Cast N P W) (d : Dialog) :
    (cast.admits d).value = decide (cast.Admits d) := by
  rw [Bool.eq_iff_iff, value_admits_iff, decide_eq_true_iff]

theorem value_admitted (cast : Cast N P W) (dialogs : List Dialog) :
    (cast.admitted dialogs).value = dialogs.filter fun d => cast.Admits d := by
  induction dialogs with
  | nil => rfl
  | cons d rest ih =>
      by_cases admits : cast.Admits d <;> simp [admitted, value_admits, ih, admits]

end Cast

namespace Graph

/-- An option can be chosen: it ends the conversation, or leads to a dialog that the cast
admits. -/
def Opens (g : Graph) (cast : Cast N P W) (option : DialogOption) : Prop :=
  option.destination = .ending ∨ ∃ next ∈ g.next? option, cast.Admits next

instance (g : Graph) (cast : Cast N P W) : DecidablePred (g.Opens cast) :=
  fun option => inferInstanceAs (Decidable (_ ∨ ∃ next ∈ g.next? option, cast.Admits next))

theorem mem_toList_of_get?_eq_some {g : Graph} {id : DialogId} {d : Dialog}
    (found : g.get? id = some d) : d ∈ g.toList :=
  OrderedMap.mem_values_iff.mpr ⟨id, found⟩

end Graph

end Parley
