/-
# What a removal takes and what it leaves

A dialog is removed with all that comes with it: what its options own, what the options of that
own, and so on. `Draft.Forgets` says what becomes of the rest. The other dialogs stay in their
order, with all that they say and require and with the same options. An option that led into what
is gone ends the conversation, also if it was a redirection, every other option leads where it
led, and no root is left that is gone.

Nothing is asked of the draft. It may own in circles, two options may own the same dialog, and
what an option owns may be missing.
-/

import Mathlib
import Parley.Proofs.Draft.Holding

namespace Parley

open Relation

/-- How a destination goes on when dialogs go: it ends where it led to one of them, and otherwise
it stays. -/
structure Destination.Forgets (gone : List DialogId) (before after : Destination) : Prop where
  ends : ∀ id ∈ gone, before.id? = some id → after = .ending
  stays : (∀ id ∈ gone, before.id? ≠ some id) → after = before

theorem Destination.forgets_unlink (destination : Destination) (gone : List DialogId) :
    destination.Forgets gone (destination.unlink gone) where
  ends id listed leads := by simp [unlink, leads, listed]
  stays outside := by
    unfold unlink
    cases leads : destination.id? with
    | none => rfl
    | some id =>
        have kept : id ∉ gone := fun listed => outside id listed leads
        simp [kept]

namespace Dialog

/-- A dialog goes on with the same words, requirements and options. Only the options may lead
elsewhere, each as is said for its position. -/
structure Rewires (leads : Nat → Destination → Destination → Prop) (before after : Dialog) :
    Prop where
  said : { after with options := before.options } = before
  count : after.options.length = before.options.length
  offered : ∀ {i option}, before.options[i]? = some option →
    ∃ destination, after.options[i]? = some { option with destination } ∧
      leads i option.destination destination

theorem rewires_mapDestinations {leads : Nat → Destination → Destination → Prop}
    {change : Destination → Destination} (d : Dialog)
    (changed : ∀ i destination, leads i destination (change destination)) :
    d.Rewires leads (d.mapDestinations change) where
  said := rfl
  count := List.length_map _
  offered {i option} there := by
    refine ⟨change option.destination, ?_, changed i option.destination⟩
    rw [mapDestinations, List.getElem?_map, there]
    rfl

theorem mapDestinations_unlink_nil (d : Dialog) : d.mapDestinations (·.unlink []) = d := by
  have same : (d.options.map fun option =>
      { option with destination := option.destination.unlink [] }) = d.options :=
    calc
      _ = d.options.map fun option => option := by
        apply List.map_congr_left
        intro option _
        simp [Destination.unlink]
      _ = d.options := List.map_id' d.options
  rw [mapDestinations, same]

end Dialog

/-- What comes with a dialog: the dialog itself, what an option of it owns, what an option of that
owns, and so on. -/
abbrev Arena.ComesWith (arena : Arena) : DialogId → DialogId → Prop :=
  ReflTransGen fun owner owned => arena.Leads owner (.dialog owned)

theorem Arena.mem_chain_iff_comesWith {arena : Arena} {root id : DialogId} :
    id ∈ arena.chain root ↔ root ∈ arena ∧ arena.ComesWith root id := by
  have leads : arena.Owns = fun owner owned => arena.Leads owner (.dialog owned) := by
    funext owner owned
    exact propext owns_iff_leads
  rw [mem_chain_iff, Reaches, leads]

theorem Arena.clear_nil (arena : Arena) : arena.clear [] = arena := by
  ext1
  simp [clear, OrderedMap.mapValues, OrderedMap.mapEntries, Dialog.mapDestinations_unlink_nil]

namespace Draft

/-- A draft goes on without some dialogs. -/
structure Forgets (before after : Draft) (gone : List DialogId) : Prop where
  dialogs : before.dialogs.Continues after.dialogs gone []
    fun _ => Dialog.Rewires fun _ => Destination.Forgets gone
  roots : after.roots = before.roots.filter (· ∉ gone)
  ids : ∀ id, id ∈ after.ids ↔ id ∈ before.ids ∧ id ∉ gone
  /-- No option is left that leads to what is gone. -/
  unled : ∀ {owner destination id}, after.dialogs.Leads owner destination →
    destination.id? = some id → id ∉ gone
  /-- No root is left that is gone. -/
  unrooted : ∀ root ∈ after.roots, root ∉ gone

/-- The draft without some dialogs. -/
def clear (draft : Draft) (gone : List DialogId) : Draft where
  dialogs := draft.dialogs.clear gone
  roots := draft.roots.filter (· ∉ gone)
  ids := draft.ids.releaseAll gone

theorem remove_eq (draft : Draft) (id : DialogId) :
    draft.remove id = (draft.dialogs.chain id, draft.clear (draft.dialogs.chain id)) :=
  rfl

theorem clear_nil (draft : Draft) : draft.clear [] = draft := by
  rw [clear, Arena.clear_nil]
  simp [IdPool.releaseAll]

theorem forgets_clear (draft : Draft) (gone : List DialogId) :
    draft.Forgets (draft.clear gone) gone where
  dialogs := by
    apply Arena.continues_clear
    intro _ d
    exact d.rewires_mapDestinations fun _ destination => destination.forgets_unlink gone
  roots := rfl
  ids id := IdPool.mem_releaseAll.trans and_comm
  unled leads on := (Arena.leads_clear leads on).2
  unrooted root listed := by
    have kept := (List.mem_filter.mp listed).2
    simpa using kept

/-- What is missing is removed without a trace. -/
theorem remove_of_not_mem {draft : Draft} {id : DialogId} (absent : id ∉ draft.dialogs) :
    draft.remove id = ([], draft) := by
  rw [remove_eq, Arena.chain, if_neg absent, clear_nil]

/-- A removed dialog is missing. -/
theorem not_mem_remove (draft : Draft) (id : DialogId) : id ∉ (draft.remove id).2.dialogs := by
  intro present
  obtain ⟨outside, there⟩ := Arena.mem_clear.mp present
  exact outside (Arena.mem_chain_iff.mpr ⟨there, .refl⟩)

/-- Removing a dialog takes exactly what comes with it, and the rest of the draft forgets what is
gone. A missing dialog takes nothing along, and so a dialog that was removed is not removed
again. -/
theorem remove_forgets_what_comes_with (draft : Draft) (id : DialogId) :
    (id ∈ draft.dialogs →
      ∃ gone, (∀ other, other ∈ gone ↔ draft.dialogs.ComesWith id other) ∧
        draft.Forgets (draft.remove id).2 gone) ∧
      (id ∉ draft.dialogs → draft.remove id = ([], draft)) ∧
      (draft.remove id).2.remove id = ([], (draft.remove id).2) := by
  refine ⟨fun present => ?_, remove_of_not_mem, remove_of_not_mem (draft.not_mem_remove id)⟩
  refine ⟨draft.dialogs.chain id, fun other => ?_, draft.forgets_clear _⟩
  rw [Arena.mem_chain_iff_comesWith]
  exact and_iff_right present

/-- The first dialog of the tangle takes the second with it, which owns it in turn, and the id that
has no dialog. The third dialog stays, and its option ends. -/
theorem remove_forgets_what_comes_with_in_tangle :
    (tangle.remove 0).2.dialogs.values = [{ (default : Dialog) with id := 2, options := [default] }] ∧
      (tangle.remove 0).2.roots = [2] ∧
      (∃ gone, (∀ other, other ∈ gone ↔ tangle.dialogs.ComesWith 0 other) ∧
        tangle.Forgets (tangle.remove 0).2 gone) ∧
      (tangle.remove 0).2.remove 0 = ([], (tangle.remove 0).2) ∧
      tangle.remove 7 = ([], tangle) := by
  obtain ⟨taken, -, once⟩ := remove_forgets_what_comes_with tangle 0
  obtain ⟨-, missing, -⟩ := remove_forgets_what_comes_with tangle 7
  exact ⟨by cbv, by cbv, taken (by decide), once, missing (by decide)⟩

end Draft

end Parley
