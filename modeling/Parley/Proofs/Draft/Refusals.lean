/-
# What a refused edit leaves behind

An edit that is refused should leave the draft as it was. Most edits look before they change
anything. Adding an owned dialog looks too, at the option that is to own it, and then clears
what the option owned before the new dialog is linked. If the dialog of the option is in the
chain that is cleared, it goes with it, and the link finds no option any more: the edit is
refused, and the chain is gone. `Draft.LosesParent` is this case, and it is the only one.

A dialog can be in the chain of what it owns only if ownership runs in a loop. Dialogs may be
passed in that close such a loop, and only finishing the story objects to it.
-/

import Parley.Proofs.Draft.Holding

namespace Parley.Draft

/-- If the edit is refused, the draft stays as it is. -/
def KeepsIfRefused (draft : Draft) (edit : Edit) : Prop :=
  ∀ e, (draft.perform edit).1 = .refused e → (draft.perform edit).2 = draft

/-- An owned dialog is to be added for an option whose dialog is in the chain that the option
owns. The dialog goes with the chain, and the new one does not come in its place with an option
at that position. -/
def LosesParent (draft : Draft) : Edit → Prop
  | .addOwned parent position d =>
    ∃ owned, draft.destination parent position = .ok (.dialog owned) ∧
      parent ∈ draft.dialogs.chain owned ∧
        (((draft.remove owned).2.add d).1 = parent → d.options.length ≤ position)
  | _ => False

theorem setDestination_eq_error_iff {draft : Draft} {parent : DialogId} {position : Nat}
    {destination : Destination} {e : GraphError} :
    draft.setDestination parent position destination = .error e ↔
      draft.destination parent position = .error e := by
  unfold setDestination
  cases draft.destination parent position <;> simp [bind, Except.bind, pure, Except.pure]

/-- An option is there exactly if its dialog is and has so many options. -/
theorem exists_destination_iff {draft : Draft} {parent : DialogId} {position : Nat} :
    (∃ destination, draft.destination parent position = .ok destination) ↔
      ∃ d, draft.dialogs.get? parent = some d ∧ position < d.options.length := by
  simp only [destination_eq_ok_iff]
  constructor
  · rintro ⟨-, d, option, found, placed, -⟩
    exact ⟨d, found, (List.getElem?_eq_some_iff.mp placed).1⟩
  · rintro ⟨d, found, inside⟩
    exact ⟨_, d, d.options[position], found, List.getElem?_eq_getElem inside, rfl⟩

theorem get?_add (draft : Draft) (d : Dialog) (id : DialogId) :
    (draft.add d).2.dialogs.get? id =
      if id = (draft.add d).1 then some { d with id := (draft.add d).1 }
      else draft.dialogs.get? id :=
  OrderedMap.get?_insert _ _ _ _

section Linking

variable {draft : Draft} {parent : DialogId} {position : Nat} {d : Dialog} {previous : Destination}

/-- An option whose dialog is not cleared is still there when the new dialog is to be linked. -/
theorem exists_destination_of_not_cleared (pooled : draft.IsPooled)
    (room : draft.dialogs.size < 2 ^ 31)
    (known : draft.destination parent position = .ok previous)
    (kept : parent ∉ draft.cleared (.addOwned parent position d)) :
    ∃ destination, ((draft.clearOwned previous).add d).2.destination parent position =
      .ok destination := by
  obtain ⟨old, found, inside⟩ := exists_destination_iff.mp ⟨previous, known⟩
  have few := Nat.lt_of_le_of_lt (pooled.size_clearOwned_le known) room
  have fresh := ((pooled.clearOwned previous).isLowestFree few).free
  obtain ⟨e, there, persists⟩ := ((continues_clearOwned known).trans
    (Arena.continues_insert (fun _ d => d.persists_refl) fresh _)).kept found kept
  have grown := persists.offered.length_le
  rw [List.length_map, List.length_map] at grown
  exact exists_destination_iff.mpr ⟨e, there, Nat.lt_of_lt_of_le inside grown⟩

/-- The option that is to own a new dialog is gone by then exactly if its dialog was lost. -/
theorem losesParent_iff (pooled : draft.IsPooled) (room : draft.dialogs.size < 2 ^ 31)
    (known : draft.destination parent position = .ok previous) :
    draft.LosesParent (.addOwned parent position d) ↔
      ¬ ∃ destination, ((draft.clearOwned previous).add d).2.destination parent position =
        .ok destination := by
  constructor
  · rintro ⟨owned, same, inChain, short⟩ there
    obtain rfl : previous = .dialog owned := Except.ok.inj (known.symm.trans same)
    obtain ⟨e, found, inside⟩ := exists_destination_iff.mp there
    rw [get?_add] at found
    split at found
    · rename_i here
      cases found
      exact Nat.not_lt.mpr (short here.symm) inside
    · have gone : (draft.dialogs.clear (draft.dialogs.chain owned)).get? parent = some e := found
      rw [Arena.get?_clear, if_pos inChain] at gone
      cases gone
  · intro gone
    have cleared : parent ∈ draft.cleared (.addOwned parent position d) := by
      by_contra kept
      exact gone (exists_destination_of_not_cleared pooled room known kept)
    rw [Draft.cleared, known] at cleared
    cases previous with
    | ending => cases cleared
    | redirect id => cases cleared
    | dialog owned =>
        refine ⟨owned, known, cleared, fun here => ?_⟩
        by_contra long
        apply gone
        apply exists_destination_iff.mpr
        refine ⟨{ d with id := ((draft.remove owned).2.add d).1 }, ?_, Nat.not_le.mp long⟩
        rw [get?_add]
        exact if_pos here.symm

/-- A new owned dialog that is refused leaves the draft as it is unless the dialog of the option
was lost. Then the option is not where it was. -/
theorem keepsIfRefused_addOwned_iff (pooled : draft.IsPooled) (room : draft.dialogs.size < 2 ^ 31) :
    draft.KeepsIfRefused (.addOwned parent position d) ↔
      ¬ draft.LosesParent (.addOwned parent position d) := by
  cases known : draft.destination parent position with
  | error e =>
      refine iff_of_true ?_ ?_
      · intro e' _
        rw [perform_addOwned_of_error known]
      · rintro ⟨owned, same, -⟩
        rw [known] at same
        cases same
  | ok previous =>
      rw [losesParent_iff pooled room known, not_not, KeepsIfRefused, perform_addOwned_of_ok known]
      cases set : ((draft.clearOwned previous).add d).2.setDestination parent position
          (.dialog ((draft.clearOwned previous).add d).1) with
      | ok linked =>
          exact iff_of_true nofun (setDestination_eq_ok_iff.mp set).1
      | error e =>
          have gone := setDestination_eq_error_iff.mp set
          refine iff_of_false ?_ ?_
          · intro keeps
            rw [keeps e rfl, known] at gone
            cases gone
          · rintro ⟨destination, there⟩
            rw [gone] at there
            cases there

end Linking

/-- Every other edit looks before it changes anything. -/
theorem keepsIfRefused_of_orKeep {α : Type} {draft : Draft} {edit : Edit}
    {report : α → Report × Draft} {result : Except GraphError α}
    (performed : draft.perform edit = draft.orKeep report result)
    (succeeds : ∀ value e, (report value).1 ≠ .refused e) : draft.KeepsIfRefused edit := by
  unfold KeepsIfRefused
  rw [performed]
  apply orKeep_cases (motive := fun left => ∀ e, left.1 = .refused e → left.2 = draft)
  · exact fun _ _ _ _ => rfl
  · exact fun value _ e refused => absurd refused (succeeds value e)

/-- A refused edit leaves the draft as it is unless it loses the dialog of its option. -/
theorem keepsIfRefused_iff {draft : Draft} (pooled : draft.IsPooled)
    (room : draft.dialogs.size < 2 ^ 31) (edit : Edit) :
    draft.KeepsIfRefused edit ↔ ¬ draft.LosesParent edit := by
  cases edit with
  | addOwned parent position d => exact keepsIfRefused_addOwned_iff pooled room
  | addRoot d => exact iff_of_true nofun id
  | addOption parent option => exact iff_of_true (keepsIfRefused_of_orKeep rfl nofun) id
  | redirect parent position target => exact iff_of_true (keepsIfRefused_of_orKeep rfl nofun) id
  | close parent position => exact iff_of_true (keepsIfRefused_of_orKeep rfl nofun) id
  | remove id => exact iff_of_true nofun fun loses => loses
  | revise id change => exact iff_of_true nofun fun loses => loses

/-- A dialog is lost only where ownership runs in a loop. -/
theorem not_losesParent_of_isLoopFree {draft : Draft} (loopFree : draft.dialogs.IsLoopFree)
    (edit : Edit) : ¬ draft.LosesParent edit := by
  cases edit with
  | addOwned parent position d =>
      rintro ⟨owned, known, inChain, -⟩
      obtain ⟨d, option, found, placed, leads⟩ := destination_eq_ok_iff.mp known
      refine loopFree.not_mem_chain (Arena.owns_iff_leads.mpr ?_) inChain
      exact ⟨d, found, option, List.mem_of_getElem? placed, leads⟩
  | _ => exact id

/-- However a draft was written, a refused edit leaves it as it is, unless an owned dialog was
to be added and the dialog of its option was lost. This is never so while no dialog comes back to
itself through what it owns. -/
theorem keepsIfRefused_iff_of_reached {allowed : Draft → Edit → Prop} {draft : Draft}
    (reached : Reached allowed draft) (room : draft.dialogs.size < 2 ^ 31) (edit : Edit) :
    (draft.KeepsIfRefused edit ↔ ¬ draft.LosesParent edit) ∧
      (draft.dialogs.IsLoopFree → draft.KeepsIfRefused edit) := by
  have keeps := keepsIfRefused_iff (isPooled_of_reached reached) room edit
  refine ⟨keeps, fun loopFree => ?_⟩
  exact keeps.mpr (not_losesParent_of_isLoopFree loopFree edit)

/-- In the tangle, the third dialog is refused a new one for an option that it does not have,
and nothing changes. -/
theorem keepsIfRefused_in_tangle :
    (tangle.perform (.addOwned 2 1 default)).1 = .refused (.noSuchOption 2 1) ∧
      tangle.KeepsIfRefused (.addOwned 2 1 default) := by
  refine ⟨by cbv, (keepsIfRefused_iff_of_reached reached_tangle (by decide) _).1.mpr ?_⟩
  rintro ⟨owned, known, -⟩
  have refused : tangle.destination 2 1 = .error (.noSuchOption 2 1) := by cbv
  rw [refused] at known
  cases known

/-- A root that owns itself. -/
def ouroboros : Draft := (default : Draft).performAll [.addRoot (owning [0])]

/-- The root that owns itself is to own a new dialog. It is removed for that, the new dialog takes
its id, and then the edit is refused for the option that the new dialog does not have. The draft
is left with a dialog that was not there and without its root. -/
theorem not_keepsIfRefused_ouroboros :
    Reached (fun draft _ => draft.dialogs.size < 2 ^ 31) ouroboros ∧
      (ouroboros.perform (.addOwned 0 0 default)).1 = .refused (.noSuchOption 0 0) ∧
      ouroboros.dialogs.values = [owning [0]] ∧ ouroboros.roots = [0] ∧
      (ouroboros.perform (.addOwned 0 0 default)).2.dialogs.values = [default] ∧
      (ouroboros.perform (.addOwned 0 0 default)).2.roots = [] ∧
      ¬ ouroboros.KeepsIfRefused (.addOwned 0 0 default) := by
  have refused : (ouroboros.perform (.addOwned 0 0 default)).1 =
      .refused (.noSuchOption 0 0) := by cbv
  have unrooted : (ouroboros.perform (.addOwned 0 0 default)).2.roots = [] := by cbv
  refine ⟨.perform .blank (by decide), refused, by cbv, by cbv, by cbv, unrooted, ?_⟩
  intro keeps
  rw [keeps _ refused] at unrooted
  cases unrooted

end Parley.Draft
