/-
# New dialogs take nobody's place

However little sense the writing makes, the ids in use are those under which dialogs stand. So
the lowest free id is one under which no dialog stands, and a new dialog never takes the place
of another.

`Draft.TakesNoPlace` says of an edit what follows from this for the dialogs. Those that the
edit does not clear stay in their order and go on as they were, and at most one dialog comes
behind them, under the lowest id that is free by then.
-/

import Mathlib
import Parley.Proofs.Draft.Soundness

namespace Parley

namespace DialogOption

/-- The option without what it leads to. -/
def unlinked (option : DialogOption) : DialogOption := { option with destination := .ending }

end DialogOption

namespace Dialog

/-- A dialog goes on as it was: it says and requires the same and offers the same options,
which may lead elsewhere and be followed by more. -/
structure Persists (before after : Dialog) : Prop where
  said : { after with options := before.options } = before
  offered : before.options.map DialogOption.unlinked <+: after.options.map DialogOption.unlinked

theorem persists_refl (d : Dialog) : d.Persists d := ⟨rfl, List.prefix_rfl⟩

theorem Persists.trans {a b c : Dialog} (first : a.Persists b) (second : b.Persists c) :
    a.Persists c where
  said := by
    rw [← first.said]
    exact congrArg (fun d : Dialog => { d with options := a.options }) second.said
  offered := first.offered.trans second.offered

theorem persists_mapDestinations (d : Dialog) (change : Destination → Destination) :
    d.Persists (d.mapDestinations change) where
  said := rfl
  offered := by
    rw [mapDestinations, List.map_map]
    exact List.prefix_rfl

theorem persists_setDestination (d : Dialog) (position : Nat) (destination : Destination) :
    d.Persists (d.setDestination position destination) where
  said := rfl
  offered := by
    have same : ((d.setDestination position destination).options.map DialogOption.unlinked) =
        d.options.map DialogOption.unlinked := by
      apply List.ext_getElem?
      intro i
      rw [setDestination, List.getElem?_map, List.getElem?_modify, List.getElem?_map]
      cases d.options[i]? with
      | none => rfl
      | some option => by_cases here : position = i <;> simp [here, DialogOption.unlinked]
    exact same ▸ List.prefix_rfl

theorem persists_append (d : Dialog) (option : DialogOption) :
    d.Persists { d with options := d.options ++ [option] } where
  said := rfl
  offered := by simp

end Dialog

namespace Arena

/-- An arena goes on after a change: what was not cleared stays in its order, related to what
it was, and what was added comes behind. -/
structure Continues (before after : Arena) (cleared added : List DialogId)
    (goesOn : DialogId → Dialog → Dialog → Prop) : Prop where
  keys : after.keys = before.keys.filter (· ∉ cleared) ++ added
  kept : ∀ {id d}, before.get? id = some d → id ∉ cleared →
    ∃ e, after.get? id = some e ∧ goesOn id d e

/-- How dialogs go on in place. -/
abbrev InPlace (_ : DialogId) (before after : Dialog) : Prop := before.Persists after

theorem keys_clear (arena : Arena) (removed : List DialogId) :
    (arena.clear removed).keys = arena.keys.filter (· ∉ removed) := by
  rw [clear, OrderedMap.keys_mapValues]
  induction removed generalizing arena with
  | nil => simp
  | cons id rest ih =>
      rw [List.foldl_cons, ih, OrderedMap.keys_erase, List.filter_filter]
      apply List.filter_congr
      intro key _
      by_cases same : key = id <;> simp [same]

theorem continues_refl (arena : Arena) : arena.Continues arena [] [] InPlace where
  keys := by simp
  kept {_ d} found _ := ⟨d, found, d.persists_refl⟩

theorem continues_modify (arena : Arena) {id : DialogId} {change : Dialog → Dialog}
    {goesOn : DialogId → Dialog → Dialog → Prop} (same : ∀ other d, other ≠ id → goesOn other d d)
    (changed : ∀ d, goesOn id d (change d)) :
    arena.Continues (arena.modify id change) [] [] goesOn where
  keys := by simp
  kept {other d} found _ := by
    rw [OrderedMap.get?_modify, found]
    split
    · rename_i here
      subst here
      exact ⟨change d, rfl, changed d⟩
    · rename_i elsewhere
      exact ⟨d, rfl, same other d elsewhere⟩

theorem continues_clear (arena : Arena) {removed : List DialogId}
    {goesOn : DialogId → Dialog → Dialog → Prop}
    (changed : ∀ id d, goesOn id d (d.mapDestinations (·.unlink removed))) :
    arena.Continues (arena.clear removed) removed [] goesOn where
  keys := by rw [keys_clear, List.append_nil]
  kept found outside := by
    rw [get?_clear, if_neg outside, found]
    exact ⟨_, rfl, changed _ _⟩

theorem continues_insert {arena : Arena} {id : DialogId} {goesOn : DialogId → Dialog → Dialog → Prop}
    (same : ∀ other d, goesOn other d d) (fresh : id ∉ arena) (d : Dialog) :
    arena.Continues (arena.insert id d) [] [id] goesOn where
  keys := by simp [OrderedMap.keys_insert_of_not_mem fresh]
  kept {other e} found _ := by
    have apart : other ≠ id := by
      rintro rfl
      exact fresh (OrderedMap.mem_of_get?_eq_some found)
    rw [OrderedMap.get?_insert, if_neg apart]
    exact ⟨e, found, same other e⟩

/-- After a change others may follow that clear nothing. -/
theorem Continues.comp {a b c : Arena} {cleared added more : List DialogId}
    {first second both : DialogId → Dialog → Dialog → Prop}
    (before : a.Continues b cleared added first) (after : b.Continues c [] more second)
    (joined : ∀ {id d e f}, first id d e → second id e f → both id d f) :
    a.Continues c cleared (added ++ more) both where
  keys := by
    rw [after.keys, before.keys]
    simp
  kept found outside := by
    obtain ⟨d, here, goesOn⟩ := before.kept found outside
    obtain ⟨e, there, goesOn'⟩ := after.kept here (by simp)
    exact ⟨e, there, joined goesOn goesOn'⟩

theorem Continues.trans {a b c : Arena} {cleared added more : List DialogId}
    (first : a.Continues b cleared added InPlace) (second : b.Continues c [] more InPlace) :
    a.Continues c cleared (added ++ more) InPlace :=
  first.comp second Dialog.Persists.trans

end Arena

namespace Draft

/-! ## New dialogs -/

/-- The lowest id from zero up that is not held. -/
structure IsLowestFree (held : DialogId → Prop) (id : DialogId) : Prop where
  nonneg : 0 ≤ id
  free : ¬ held id
  lowest : ∀ lower, 0 ≤ lower → lower < id → held lower

/-- The ids that an edit clears before it adds anything. -/
def cleared (draft : Draft) : Edit → List DialogId
  | .remove id => draft.dialogs.chain id
  | .addOwned parent position _ =>
    match draft.destination parent position with
    | .ok (.dialog owned) => draft.dialogs.chain owned
    | _ => []
  | _ => []

/-- A dialog stands under this id, and the edit does not clear it. -/
def Holds (draft : Draft) (edit : Edit) (id : DialogId) : Prop :=
  id ∈ draft.dialogs ∧ id ∉ draft.cleared edit

namespace Edit

/-- How an edit lets a dialog go on: as it was, unless it is the one to revise. -/
def GoesOn : Edit → DialogId → Dialog → Dialog → Prop
  | .revise target change, id, before, after =>
    after = if id = target then change before else before
  | _, _, before, after => before.Persists after

/-- The dialog that an edit is to add. -/
def dialog? : Edit → Option Dialog
  | .addRoot d => some d
  | .addOwned _ _ d => some d
  | _ => none

end Edit

/-- An edit takes nobody's place. The dialogs that it does not clear go on in their order. What
it adds comes behind them, under the lowest id that is free by then. -/
structure TakesNoPlace (draft : Draft) (edit : Edit) (added? : Option DialogId) : Prop where
  goesOn : draft.dialogs.Continues (draft.perform edit).2.dialogs (draft.cleared edit)
    added?.toList edit.GoesOn
  lowest : ∀ id ∈ added?, IsLowestFree (draft.Holds edit) id
  placed : ∀ id ∈ added?, ∃ d ∈ edit.dialog?, ∃ e, (draft.perform edit).2.dialogs.get? id = some e ∧
    Dialog.Persists { d with id } e
  reported : ∀ id, (draft.perform edit).1 = .added id → id ∈ added?

/-- An edit that adds nothing takes no place. -/
theorem takesNoPlace_none {draft : Draft} {edit : Edit}
    (goesOn : draft.dialogs.Continues (draft.perform edit).2.dialogs (draft.cleared edit) []
      edit.GoesOn)
    (silent : ∀ id, (draft.perform edit).1 ≠ .added id) : draft.TakesNoPlace edit none where
  goesOn := goesOn
  lowest _ added := by cases added
  placed _ added := by cases added
  reported id added := absurd added (silent id)

theorem continues_setDestination {draft after : Draft} {parent : DialogId} {position : Nat}
    {destination : Destination}
    (set : draft.setDestination parent position destination = .ok after) :
    draft.dialogs.Continues after.dialogs [] [] Arena.InPlace := by
  obtain ⟨-, rfl⟩ := setDestination_eq_ok_iff.mp set
  exact Arena.continues_modify _ (fun _ d _ => d.persists_refl)
    fun d => d.persists_setDestination position destination

theorem continues_clearOwned {draft : Draft} {parent : DialogId} {position : Nat} {d : Dialog}
    {previous : Destination} (known : draft.destination parent position = .ok previous) :
    draft.dialogs.Continues (draft.clearOwned previous).dialogs
      (draft.cleared (.addOwned parent position d)) [] Arena.InPlace := by
  rw [cleared, known]
  cases previous with
  | ending => exact Arena.continues_refl _
  | redirect id => exact Arena.continues_refl _
  | dialog owned => exact Arena.continues_clear _ fun _ d => d.persists_mapDestinations _

theorem IsPooled.isLowestFree {draft : Draft} (pooled : draft.IsPooled)
    (room : draft.ids.size < 2 ^ 31) : IsLowestFree (· ∈ draft.dialogs) draft.ids.lowestFree := by
  obtain ⟨nonneg, free, lowest⟩ := IdPool.lowestFree_spec room
  refine ⟨nonneg, fun held => free ((pooled _).mpr held), ?_⟩
  intro lower nonneg below
  exact (pooled lower).mp (lowest lower nonneg below)

/-- What an edit holds while it adds something is what the draft has left by then. -/
theorem holds_iff {draft left : Draft} {edit : Edit} {goesOn : DialogId → Dialog → Dialog → Prop}
    (cleared : draft.dialogs.Continues left.dialogs (draft.cleared edit) [] goesOn)
    {id : DialogId} : draft.Holds edit id ↔ id ∈ left.dialogs := by
  rw [OrderedMap.mem_iff, cleared.keys, List.append_nil, List.mem_filter, decide_eq_true_iff]
  exact Iff.rfl

/-- An edit that adds a dialog to what is left after clearing takes no place. -/
theorem takesNoPlace_some {draft left : Draft} {edit : Edit} {d : Dialog}
    (asked : edit.dialog? = some d) (inPlace : edit.GoesOn = Arena.InPlace)
    (cleared : draft.dialogs.Continues left.dialogs (draft.cleared edit) [] Arena.InPlace)
    (pooled : left.IsPooled) (room : left.ids.size < 2 ^ 31)
    (linked : (left.add d).2.dialogs.Continues (draft.perform edit).2.dialogs [] [] Arena.InPlace)
    (reported : ∀ id, (draft.perform edit).1 = .added id → left.ids.lowestFree = id) :
    draft.TakesNoPlace edit (some left.ids.lowestFree) := by
  have lowest := pooled.isLowestFree room
  have added : left.dialogs.Continues (left.add d).2.dialogs [] [left.ids.lowestFree]
      Arena.InPlace := Arena.continues_insert (fun _ d => d.persists_refl) lowest.free _
  refine ⟨?_, ?_, ?_, fun id report => congrArg some (reported id report)⟩
  · rw [inPlace]
    exact (cleared.trans added).trans linked
  · rintro id ⟨⟩
    refine ⟨lowest.nonneg, fun held => lowest.free ((holds_iff cleared).mp held), ?_⟩
    intro lower nonneg below
    exact (holds_iff cleared).mpr (lowest.lowest lower nonneg below)
  · rintro id ⟨⟩
    have there : (left.add d).2.dialogs.get? left.ids.lowestFree =
        some { d with id := left.ids.lowestFree } := by
      show (OrderedMap.insert _ _ _).get? _ = _
      rw [OrderedMap.get?_insert, if_pos rfl]
    obtain ⟨e, found, persists⟩ := linked.kept there List.not_mem_nil
    exact ⟨d, asked, e, found, persists⟩

/-- Clearing what an option owned leaves no more ids in use than there were dialogs. -/
theorem IsPooled.size_clearOwned_le {draft : Draft} (pooled : draft.IsPooled)
    {parent : DialogId} {position : Nat} {previous : Destination}
    (known : draft.destination parent position = .ok previous) :
    (draft.clearOwned previous).ids.size ≤ draft.dialogs.size := by
  apply size_ids_le
  intro id used
  have left := (pooled.clearOwned previous id).mp used
  exact ((holds_iff (continues_clearOwned (d := default) known)).mpr left).1

theorem perform_addOwned_of_error {draft : Draft} {parent : DialogId} {position : Nat}
    {d : Dialog} {e : GraphError} (known : draft.destination parent position = .error e) :
    draft.perform (.addOwned parent position d) = (.refused e, draft) := by
  simp only [perform, addOwned_of_error known]

theorem perform_addOwned_of_ok {draft : Draft} {parent : DialogId} {position : Nat} {d : Dialog}
    {previous : Destination} (known : draft.destination parent position = .ok previous) :
    draft.perform (.addOwned parent position d) =
      match ((draft.clearOwned previous).add d).2.setDestination parent position
        (.dialog ((draft.clearOwned previous).add d).1) with
      | .error e => (.refused e, ((draft.clearOwned previous).add d).2)
      | .ok linked => (.added ((draft.clearOwned previous).add d).1, linked) := by
  simp only [perform, addOwned_of_ok known]
  cases ((draft.clearOwned previous).add d).2.setDestination parent position
    (.dialog ((draft.clearOwned previous).add d).1) <;> rfl

theorem exists_takesNoPlace_addOwned {draft : Draft} (pooled : draft.IsPooled)
    (room : draft.dialogs.size < 2 ^ 31) (parent : DialogId) (position : Nat) (d : Dialog) :
    ∃ added?, draft.TakesNoPlace (.addOwned parent position d) added? := by
  cases known : draft.destination parent position with
  | error e =>
      have refused := perform_addOwned_of_error (d := d) known
      refine ⟨none, takesNoPlace_none ?_ fun id => by simp [refused]⟩
      rw [refused, cleared, known]
      exact Arena.continues_refl _
  | ok previous =>
      have few := Nat.lt_of_le_of_lt (pooled.size_clearOwned_le known) room
      have performed := perform_addOwned_of_ok (d := d) known
      refine ⟨_, takesNoPlace_some rfl rfl (continues_clearOwned known)
        (pooled.clearOwned previous) few ?_ ?_⟩ <;> rw [performed] <;> split
      · exact Arena.continues_refl _
      · rename_i linked set
        exact continues_setDestination set
      · rintro id ⟨⟩
      · rintro id ⟨⟩
        rfl

/-- An edit of a dialog in place clears and adds nothing. -/
theorem takesNoPlace_orKeep {α : Type} {draft : Draft} {edit : Edit}
    {report : α → Report × Draft} {result : Except GraphError α}
    (performed : draft.perform edit = draft.orKeep report result)
    (inPlace : edit.GoesOn = Arena.InPlace) (clears : draft.cleared edit = [])
    (succeeds : ∀ value, result = .ok value →
      draft.dialogs.Continues (report value).2.dialogs [] [] Arena.InPlace ∧
        ∀ id, (report value).1 ≠ .added id) :
    draft.TakesNoPlace edit none := by
  obtain ⟨goesOn, silent⟩ := orKeep_cases
    (motive := fun left => draft.dialogs.Continues left.2.dialogs [] [] Arena.InPlace ∧
      ∀ id, left.1 ≠ .added id)
    (fun e _ => ⟨Arena.continues_refl _, fun id same => by cases same⟩) succeeds
  rw [← performed] at goesOn silent
  refine takesNoPlace_none ?_ silent
  rw [inPlace, clears]
  exact goesOn

/-- No edit takes the place of a dialog while there are ids left. -/
theorem exists_takesNoPlace {draft : Draft} (pooled : draft.IsPooled)
    (room : draft.dialogs.size < 2 ^ 31) (edit : Edit) :
    ∃ added?, draft.TakesNoPlace edit added? := by
  have few := Nat.lt_of_le_of_lt (size_ids_le fun id used => (pooled id).mp used) room
  cases edit with
  | addRoot d =>
      refine ⟨_, takesNoPlace_some rfl rfl (Arena.continues_refl _) pooled few ?_ ?_⟩
      · exact Arena.continues_refl _
      · rintro id ⟨⟩
        rfl
  | addOwned parent position d => exact exists_takesNoPlace_addOwned pooled room parent position d
  | addOption parent option =>
      refine ⟨none, takesNoPlace_orKeep rfl rfl rfl fun value added => ?_⟩
      obtain ⟨d, -, same⟩ := bind_eq_ok_iff.mp added
      cases same
      exact ⟨Arena.continues_modify _ (fun _ d _ => d.persists_refl) fun d => d.persists_append _,
        fun id same => by cases same⟩
  | redirect parent position target =>
      refine ⟨none, takesNoPlace_orKeep rfl rfl rfl fun value linked => ?_⟩
      obtain ⟨d, -, set⟩ := bind_eq_ok_iff.mp linked
      exact ⟨continues_setDestination set, fun id same => by cases same⟩
  | close parent position =>
      refine ⟨none, takesNoPlace_orKeep rfl rfl rfl fun value set => ?_⟩
      exact ⟨continues_setDestination set, fun id same => by cases same⟩
  | remove id =>
      refine ⟨none, takesNoPlace_none (Arena.continues_clear _ ?_) fun id same => by cases same⟩
      exact fun _ d => d.persists_mapDestinations _
  | revise id change =>
      refine ⟨none, takesNoPlace_none ?_ fun id same => by cases same⟩
      apply Arena.continues_modify
      · intro other d elsewhere
        exact (if_neg elsewhere).symm
      · intro d
        exact (if_pos rfl).symm

/-- Whatever writing comes to, the ids in use are those under which dialogs stand. While there
are ids left, the next edit takes nobody's place, and what it adds stands under the lowest id
that is free by then. -/
theorem hands_out_free_ids_of_reached {allowed : Draft → Edit → Prop} {draft : Draft}
    (reached : Reached allowed draft) :
    (∀ id, id ∈ draft.ids ↔ id ∈ draft.dialogs) ∧
      (draft.dialogs.size < 2 ^ 31 → ∀ edit, ∃ added?, draft.TakesNoPlace edit added?) := by
  have pooled := isPooled_of_reached reached
  exact ⟨pooled, fun room edit => exists_takesNoPlace pooled room edit⟩

/-- A dialog with options that own other dialogs, there or not. -/
def owning (ids : List DialogId) : Dialog :=
  { (default : Dialog) with
    options := ids.map fun id => { (default : DialogOption) with destination := .dialog id } }

/-- Two dialogs own each other, one of them under an id that it no longer bears. One owns a
dialog that is missing. A third dialog owns them both. -/
def tangle : Draft :=
  (default : Draft).performAll
    [.addRoot (owning [1, 7]), .addRoot (owning [0]), .addRoot (owning [1]),
      .revise 1 fun d => { d with id := 9 }]

theorem reached_tangle : Reached (fun draft _ => draft.dialogs.size < 2 ^ 31) tangle := by
  refine .perform (.perform (.perform (.perform .blank ?_) ?_) ?_) ?_ <;> decide

/-- What the third dialog of the tangle comes to own stands under the first id of what it owned
before. -/
theorem hands_out_free_ids_in_tangle :
    (tangle.perform (.addOwned 2 0 default)).1 = .added 0 ∧
      (∀ id, id ∈ tangle.ids ↔ id ∈ tangle.dialogs) ∧
        ∃ added?, tangle.TakesNoPlace (.addOwned 2 0 default) added? := by
  obtain ⟨pooled, takesNoPlace⟩ := hands_out_free_ids_of_reached reached_tangle
  exact ⟨by cbv, pooled, takesNoPlace (by decide) _⟩

end Draft

end Parley
