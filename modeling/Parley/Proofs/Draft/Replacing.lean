/-
# A new dialog in the place of what an option owned

An option of a draft that could be finished as it stands can always be given a new dialog to own.
What it owned before goes, with all that comes with it, the new dialog comes behind those that
are left, and the option leads to it. `Draft.Replaces` says that this is all that changes.

Two things could go wrong, and do where the dialogs make no story. The dialog of the option could
go with what it owns. It does not, since no dialog comes back to itself. And the new dialog may
come under an id that has just become free, so what led to the old dialog of this id could lead to
the new one. It does not, since it ends before the id is handed out.
-/

import Mathlib
import Parley.Proofs.Draft.Refusals
import Parley.Proofs.Draft.Removing

namespace Parley

open Relation

namespace Dialog

theorem Rewires.mono {leads leads' : Nat → Destination → Destination → Prop} {before after : Dialog}
    (rewires : before.Rewires leads after)
    (weaker : ∀ i old new, leads i old new → leads' i old new) : before.Rewires leads' after where
  said := rewires.said
  count := rewires.count
  offered there := by
    obtain ⟨destination, here, leads⟩ := rewires.offered there
    exact ⟨destination, here, weaker _ _ _ leads⟩

theorem Rewires.setDestination {leads : Nat → Destination → Destination → Prop}
    {before after : Dialog} (rewires : before.Rewires leads after) (position : Nat)
    (destination : Destination) :
    before.Rewires (fun i old new => if i = position then new = destination else leads i old new)
      (after.setDestination position destination) where
  said := rewires.said
  count := by rw [Dialog.setDestination, List.length_modify, rewires.count]
  offered {i option} there := by
    obtain ⟨old, here, leads⟩ := rewires.offered there
    rw [Dialog.setDestination, List.getElem?_modify, here]
    by_cases same : i = position
    · exact ⟨destination, by simp [same], (if_pos same).mpr rfl⟩
    · exact ⟨old, by simp [Ne.symm same], (if_neg same).mpr leads⟩

end Dialog

namespace Draft

/-- How the destination of an option goes on when a new dialog is linked: the option that is to
own it leads to it, and every other one forgets what is gone. -/
def Relinks (parent : DialogId) (position : Nat) (id : DialogId) (gone : List DialogId)
    (owner : DialogId) (i : Nat) (before after : Destination) : Prop :=
  if owner = parent ∧ i = position then after = .dialog id else before.Forgets gone after

/-- A new dialog comes in the place of what an option owned. -/
structure Replaces (before after : Draft) (parent : DialogId) (position : Nat) (d : Dialog)
    (id : DialogId) (gone : List DialogId) : Prop where
  dialogs : before.dialogs.Continues after.dialogs gone [id]
    fun owner => Dialog.Rewires (Relinks parent position id gone owner)
  placed : after.dialogs.get? id = some { d with id }
  linked : after.destination parent position = .ok (.dialog id)
  roots : after.roots = before.roots.filter (· ∉ gone)
  ids : ∀ other, other ∈ after.ids ↔ other = id ∨ other ∈ before.ids ∧ other ∉ gone

theorem isSound_of_build {draft : Draft} (pooled : draft.IsPooled)
    (keyed : ∀ {id d}, draft.dialogs.get? id = some d → d.id = id) {g : Graph}
    (built : draft.build = .ok g) : draft.IsSound where
  story := (Arena.isStory_iff_isSound (Arena.lists_values keyed)).mp
    (Graph.isStory_of_ofDialogs built)
  pooled := pooled _

section Owned

variable {draft : Draft} {parent : DialogId} {position : Nat} {d : Dialog} {previous : Destination}
  (known : draft.destination parent position = .ok previous)

include known

theorem clearOwned_eq_clear :
    draft.clearOwned previous = draft.clear (draft.cleared (.addOwned parent position d)) := by
  rw [cleared, known]
  cases previous with
  | ending => exact draft.clear_nil.symm
  | redirect id => exact draft.clear_nil.symm
  | dialog owned => rfl

theorem IsSound.mem_cleared_iff (sound : draft.IsSound) {other : DialogId} :
    other ∈ draft.cleared (.addOwned parent position d) ↔
      ∃ owned, previous = .dialog owned ∧ draft.dialogs.ComesWith owned other := by
  rw [cleared, known]
  cases previous with
  | ending => simp
  | redirect id => simp
  | dialog owned =>
      obtain ⟨p, option, found, offered, leads⟩ := destination_eq_ok_iff.mp known
      have owns : draft.dialogs.Leads parent (.dialog owned) :=
        ⟨p, found, option, List.mem_of_getElem? offered, leads⟩
      have present : owned ∈ draft.dialogs := sound.story.linked owns rfl
      simp [Arena.mem_chain_iff_comesWith, present]

/-- The dialog of an option does not go with what the option owns. -/
theorem IsSound.not_mem_cleared (sound : draft.IsSound) :
    parent ∉ draft.cleared (.addOwned parent position d) := by
  rw [cleared, known]
  cases previous with
  | ending => exact List.not_mem_nil
  | redirect id => exact List.not_mem_nil
  | dialog owned =>
      obtain ⟨p, option, found, offered, leads⟩ := destination_eq_ok_iff.mp known
      apply sound.story.loopFree.not_mem_chain
      rw [Arena.owns_iff_leads]
      exact ⟨p, found, option, List.mem_of_getElem? offered, leads⟩

end Owned

/-- What forgets dialogs, is given a new one and then a link to it, changes only as said. -/
theorem Forgets.continues_link {before left : Draft} {gone : List DialogId}
    (forgets : before.Forgets left gone) {id : DialogId} (fresh : id ∉ left.dialogs) (d : Dialog)
    (parent : DialogId) (position : Nat) :
    before.dialogs.Continues
      ((left.dialogs.insert id d).modify parent (·.setDestination position (.dialog id))) gone [id]
      fun owner => Dialog.Rewires (Relinks parent position id gone owner) := by
  have added : left.dialogs.Continues (left.dialogs.insert id d) [] [id] fun _ => Eq :=
    Arena.continues_insert (fun _ _ => rfl) fresh d
  have linked : Arena.Continues (left.dialogs.insert id d)
      ((left.dialogs.insert id d).modify parent (·.setDestination position (.dialog id))) [] []
      fun owner a b => b = if owner = parent then a.setDestination position (.dialog id) else a := by
    apply Arena.continues_modify
    · intro owner a elsewhere
      rw [if_neg elsewhere]
    · intro a
      rw [if_pos rfl]
  have grown := forgets.dialogs.comp added fun rewires same => same ▸ rewires
  refine grown.comp linked fun {owner a b c} rewires same => ?_
  rw [same]
  split
  · rename_i here
    refine (rewires.setDestination position (.dialog id)).mono fun i old new leads => ?_
    simpa [Relinks, here] using leads
  · rename_i elsewhere
    refine rewires.mono fun i old new leads => ?_
    simpa [Relinks, elsewhere] using leads

/-- A dialog that is added to what is left, and linked, comes in the place of what is gone. -/
theorem Forgets.replaces {draft left after : Draft} {gone : List DialogId}
    (forgets : draft.Forgets left gone) {parent : DialogId} {position : Nat} {p d : Dialog}
    {option : DialogOption} (found : draft.dialogs.get? parent = some p)
    (offered : p.options[position]? = some option) (kept : parent ∉ gone)
    (fresh : left.ids.lowestFree ∉ left.dialogs)
    (set : (left.add d).2.setDestination parent position (.dialog left.ids.lowestFree) =
      .ok after) :
    draft.Replaces after parent position d left.ids.lowestFree gone := by
  obtain ⟨-, rfl⟩ := setDestination_eq_ok_iff.mp set
  have continues := forgets.continues_link fresh { d with id := left.ids.lowestFree } parent position
  have apart : left.ids.lowestFree ≠ parent := by
    obtain ⟨e, there, -⟩ := forgets.dialogs.kept found kept
    intro same
    exact fresh (same ▸ OrderedMap.mem_of_get?_eq_some there)
  refine ⟨continues, ?_, ?_, forgets.roots, fun other => ?_⟩
  · show (OrderedMap.modify _ _ _).get? _ = _
    rw [OrderedMap.get?_modify, if_neg apart]
    show (OrderedMap.insert _ _ _).get? _ = _
    rw [OrderedMap.get?_insert, if_pos rfl]
  · obtain ⟨e, there, rewires⟩ := continues.kept found kept
    obtain ⟨destination, here, leads⟩ := rewires.offered offered
    rw [Relinks, if_pos ⟨rfl, rfl⟩] at leads
    exact destination_eq_ok_iff.mpr ⟨e, _, there, here, leads⟩
  · show other ∈ left.ids.insert _ ↔ _
    rw [IdPool.mem_insert, forgets.ids]

/-- In a draft that could be finished, every option that is there can be given a new dialog to own.
What it owned before goes with all that comes with it, which never includes the dialog of the
option, and the new dialog comes in its place. -/
theorem addOwned_replaces_of_build {allowed : Draft → Edit → Prop} {draft : Draft}
    (reached : Reached allowed draft) (room : draft.dialogs.size < 2 ^ 31)
    (keyed : ∀ {id d}, draft.dialogs.get? id = some d → d.id = id)
    (built : ∃ g, draft.build = .ok g) {parent : DialogId} {position : Nat} {p : Dialog}
    {option : DialogOption} (found : draft.dialogs.get? parent = some p)
    (offered : p.options[position]? = some option) (d : Dialog) :
    ∃ id after gone, draft.addOwned parent position d = (.ok id, after) ∧
      (∀ other, other ∈ gone ↔
        ∃ owned, option.destination = .dialog owned ∧ draft.dialogs.ComesWith owned other) ∧
      parent ∉ gone ∧ draft.Replaces after parent position d id gone := by
  obtain ⟨g, built⟩ := built
  have pooled := isPooled_of_reached reached
  have sound := isSound_of_build pooled keyed built
  have known : draft.destination parent position = .ok option.destination :=
    destination_eq_ok_iff.mpr ⟨p, option, found, offered, rfl⟩
  have kept : parent ∉ draft.cleared (.addOwned parent position d) := sound.not_mem_cleared known
  have forgets : draft.Forgets (draft.clearOwned option.destination)
      (draft.cleared (.addOwned parent position d)) := by
    rw [clearOwned_eq_clear known]
    exact draft.forgets_clear _
  have fresh := ((pooled.clearOwned option.destination).isLowestFree
    (Nat.lt_of_le_of_lt (pooled.size_clearOwned_le known) room)).free
  obtain ⟨after, set⟩ : ∃ after, ((draft.clearOwned option.destination).add d).2.setDestination
      parent position (.dialog ((draft.clearOwned option.destination).add d).1) = .ok after :=
    ⟨_, setDestination_eq_ok_iff.mpr
      ⟨exists_destination_of_not_cleared pooled room known kept, rfl⟩⟩
  refine ⟨_, after, _, ?_, fun other => sound.mem_cleared_iff known, kept,
    forgets.replaces found offered kept fresh set⟩
  rw [addOwned_of_ok known, set]
  rfl

/-- A root owns a chain of two dialogs and leads to the second of them by a redirection as well.
Another root leads to the first one, also by a redirection. -/
def shortcuts : Draft :=
  let twoOptions : Dialog := { (default : Dialog) with options := [default, default] }
  (default : Draft).performAll
    [.addRoot twoOptions, .addOwned 0 0 twoOptions, .addOwned 1 0 twoOptions, .redirect 0 1 2,
      .addRoot twoOptions, .redirect 3 0 1]

theorem reached_shortcuts : Reached (fun draft _ => draft.dialogs.size < 2 ^ 31) shortcuts := by
  refine .perform (.perform (.perform (.perform (.perform (.perform .blank ?_) ?_) ?_) ?_) ?_) ?_
  all_goals decide

/-- The first root is given a new dialog in the place of the chain. The new dialog has the id of the
first dialog of the chain, and yet the other root does not lead to it. -/
theorem addOwned_replaces_of_build_in_shortcuts :
    let ending : DialogOption := default
    let linked : DialogOption := { (default : DialogOption) with destination := .dialog 1 }
    ((shortcuts.addOwned 0 0 default).1 = .ok 1 ∧
      (shortcuts.addOwned 0 0 default).2.dialogs.values =
        [{ (default : Dialog) with options := [linked, ending] },
          { (default : Dialog) with id := 3, options := [ending, ending] },
          { (default : Dialog) with id := 1 }]) ∧
    ∃ id after gone, shortcuts.addOwned 0 0 default = (.ok id, after) ∧
      (∀ other, other ∈ gone ↔
        ∃ owned, Destination.dialog 1 = .dialog owned ∧ shortcuts.dialogs.ComesWith owned other) ∧
      0 ∉ gone ∧ shortcuts.Replaces after 0 0 default id gone := by
  intro ending linked
  have keyed {id : DialogId} {d : Dialog} (found : shortcuts.dialogs.get? id = some d) :
      d.id = id := by
    have named : ∀ entry ∈ shortcuts.dialogs.entries, entry.2.id = entry.1 := by decide
    exact named (id, d) (OrderedMap.get?_eq_some_iff.mp found)
  have fine : shortcuts.build.isOk = true := by cbv
  have built : ∃ g, shortcuts.build = .ok g := by
    cases made : shortcuts.build with
    | error flaw =>
        rw [made] at fine
        cases fine
    | ok g => exact ⟨g, rfl⟩
  let root : Dialog :=
    { (default : Dialog) with
      options := [linked, { (default : DialogOption) with destination := .redirect 2 }] }
  have found : shortcuts.dialogs.get? 0 = some root := by cbv
  have offered : root.options[0]? = some linked := rfl
  have replaced :=
    addOwned_replaces_of_build reached_shortcuts (by decide) keyed built found offered default
  exact ⟨⟨by cbv, by cbv⟩, replaced⟩

end Draft

end Parley
