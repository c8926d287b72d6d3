/-
# Drafts stay sound

A draft that starts from nothing or from a finished story, and that is written only by its
own means, can be finished at any time. Its own means are the edits that pass in dialogs
and options that end everywhere, so that all linking is left to the draft, and revisions
that change neither an id nor where an option leads.

The invariant is `Draft.IsSound`: the dialogs and roots make a story, and the ids in use are
those of the dialogs. The delicate edit is `addOwned`, which clears a chain before it links
the new dialog: the parent must not go with the chain, or a new dialog could be given the
parent's id and own itself. It does not, since a dialog that owns a chain is not in it.
-/

import Parley.Proofs.Draft.Changes
import Parley.Proofs.Draft.IdPool

namespace Parley.Draft

open Relation

/-- The edit leaves all linking to the draft. -/
def Edit.IsPlain (draft : Draft) : Edit → Prop
  | .addRoot d => d.IsPlain
  | .addOption _ option => option.destination = .ending
  | .addOwned _ _ d => d.IsPlain
  | .redirect _ _ _ => True
  | .close _ _ => True
  | .remove _ => True
  | .revise id change => ∀ d, draft.dialogs.get? id = some d →
      (change d).id = d.id ∧
        (change d).options.map DialogOption.destination =
          d.options.map DialogOption.destination

/-- The drafts that writing comes to, from nothing or from a finished story, by edits that
are allowed where they are made. -/
inductive Reached (allowed : Draft → Edit → Prop) : Draft → Prop
  | blank : Reached allowed default
  | ofGraph {dialogs roots g} (made : Graph.ofDialogs dialogs roots = .ok g) :
      Reached allowed (ofGraph g)
  | perform {draft edit} (before : Reached allowed draft) (fits : allowed draft edit) :
      Reached allowed (draft.perform edit).2

/-- The draft could be finished now, and its ids in use are those of its dialogs. -/
structure IsSound (draft : Draft) : Prop where
  story : draft.dialogs.IsSound draft.roots
  pooled : ∀ {id}, id ∈ draft.ids ↔ id ∈ draft.dialogs

theorem isSound_default : IsSound default where
  story :=
    { keyed := fun found => by cases found
      nonneg := fun present => by cases present
      rooted := fun listed => by cases listed
      linked := fun ⟨_, found, _⟩ => by cases found
      loopFree := fun id loop => by
        obtain ⟨next, owns, -⟩ := TransGen.head'_iff.mp loop
        cases Arena.mem_of_owns owns }
  pooled := Iff.rfl

theorem isSound_ofGraph {dialogs : List Dialog} {roots : List DialogId} {g : Graph}
    (made : Graph.ofDialogs dialogs roots = .ok g) : (ofGraph g).IsSound := by
  obtain ⟨lists, -, sound⟩ := Graph.ofDialogs_eq_ok_iff.mp made
  refine ⟨sound, fun {id} => ?_⟩
  have told : g.toList = dialogs := lists.values_eq
  show id ∈ IdPool.ofGraph g ↔ id ∈ g.dialogs
  rw [IdPool.mem_ofGraph, told, lists.mem_iff]

/-- A sound draft can be finished, and the story holds its dialogs and roots. -/
theorem IsSound.build_eq_ok {draft : Draft} (sound : draft.IsSound) :
    draft.build = .ok ⟨draft.dialogs, draft.roots⟩ :=
  Graph.ofDialogs_eq_ok_iff.mpr ⟨Arena.lists_values sound.story.keyed, rfl, sound.story⟩

/-! ## Reading the operations -/

theorem dialog_eq_ok_iff {draft : Draft} {id : DialogId} {d : Dialog} :
    draft.dialog id = .ok d ↔ draft.dialogs.get? id = some d := by
  unfold dialog
  cases draft.dialogs.get? id <;> simp

theorem destination_eq_ok_iff {draft : Draft} {parent : DialogId} {position : Nat}
    {destination : Destination} :
    draft.destination parent position = .ok destination ↔
      ∃ d option, draft.dialogs.get? parent = some d ∧ d.options[position]? = some option ∧
        option.destination = destination := by
  unfold Draft.destination dialog
  cases draft.dialogs.get? parent with
  | none => simp [bind, Except.bind]
  | some d =>
      cases found : d.options[position]? <;>
        simp [bind, Except.bind, pure, Except.pure, throw, throwThe, MonadExceptOf.throw, found]

theorem setDestination_eq_ok_iff {draft after : Draft} {parent : DialogId} {position : Nat}
    {destination : Destination} :
    draft.setDestination parent position destination = .ok after ↔
      (∃ previous, draft.destination parent position = .ok previous) ∧
        after = { draft with
          dialogs := draft.dialogs.modify parent (·.setDestination position destination) } := by
  unfold setDestination
  rw [bind_eq_ok_iff]
  simp [pure, Except.pure, eq_comm]

/-- The draft without what a destination owned. -/
def clearOwned (draft : Draft) (previous : Destination) : Draft :=
  match previous.owned? with
  | some owned => (draft.remove owned).2
  | none => draft

theorem addOwned_of_error {draft : Draft} {parent : DialogId} {position : Nat} {d : Dialog}
    {e : GraphError} (known : draft.destination parent position = .error e) :
    draft.addOwned parent position d = (.error e, draft) := by
  simp only [addOwned, known]

/-- A new owned dialog is added once the old one is cleared, and linked after that. -/
theorem addOwned_of_ok {draft : Draft} {parent : DialogId} {position : Nat} {d : Dialog}
    {previous : Destination} (known : draft.destination parent position = .ok previous) :
    draft.addOwned parent position d =
      match ((draft.clearOwned previous).add d).2.setDestination parent position
        (.dialog ((draft.clearOwned previous).add d).1) with
      | .error e => (.error e, ((draft.clearOwned previous).add d).2)
      | .ok linked => (.ok ((draft.clearOwned previous).add d).1, linked) := by
  simp only [addOwned, known]
  rfl

theorem perform_addOwned (draft : Draft) (parent : DialogId) (position : Nat) (d : Dialog) :
    (draft.perform (.addOwned parent position d)).2 = (draft.addOwned parent position d).2 := by
  simp only [perform]
  split <;> simp only [*]

/-- An edit that is refused without a change leaves the draft, and any other its result. -/
theorem orKeep_cases {α : Type} {motive : Report × Draft → Prop} {draft : Draft}
    {report : α → Report × Draft} {result : Except GraphError α}
    (refused : ∀ e, result = .error e → motive (.refused e, draft))
    (succeeds : ∀ value, result = .ok value → motive (report value)) :
    motive (draft.orKeep report result) := by
  cases result with
  | ok value => exact succeeds value rfl
  | error e => exact refused e rfl

/-!
## The ids in use

A draft keeps the ids it has handed out apart from its dialogs, and every edit that adds or
removes something has to change both. They never part, whether or not the writing is plain. Two
edits could part them. A removal frees every id that was met on the way, also ids of dialogs
that options own and that are missing; those were not in use. An owned dialog may be refused
after a chain was cleared and an id was handed out; by then it stands under that id.
-/

/-- The ids in use are no more than the dialogs that they name. -/
theorem size_ids_le {draft : Draft} {arena : Arena}
    (within : ∀ id ∈ draft.ids, id ∈ arena) : draft.ids.size ≤ arena.size := by
  have few := (List.subperm_of_subset draft.ids.nodup within).length_le
  rwa [OrderedMap.keys, List.length_map] at few

/-- The ids in use are those under which dialogs stand. -/
def IsPooled (draft : Draft) : Prop := ∀ id, id ∈ draft.ids ↔ id ∈ draft.dialogs

namespace IsPooled

variable {draft : Draft} (pooled : draft.IsPooled)

include pooled

theorem modify (id : DialogId) (change : Dialog → Dialog) :
    IsPooled { draft with dialogs := draft.dialogs.modify id change } := by
  intro other
  rw [OrderedMap.mem_iff, OrderedMap.keys_modify, ← OrderedMap.mem_iff]
  exact pooled other

theorem setDestination {parent : DialogId} {position : Nat} {destination : Destination}
    {after : Draft} (set : draft.setDestination parent position destination = .ok after) :
    after.IsPooled := by
  obtain ⟨-, rfl⟩ := setDestination_eq_ok_iff.mp set
  exact pooled.modify parent _

theorem add (d : Dialog) : (draft.add d).2.IsPooled := by
  intro other
  show other ∈ draft.ids.insert _ ↔ other ∈ draft.dialogs.insert _ _
  rw [IdPool.mem_insert, pooled other]
  simp only [OrderedMap.mem_iff_exists_get?, OrderedMap.get?_insert]
  split <;> simp [*]

theorem remove (id : DialogId) : (draft.remove id).2.IsPooled := by
  intro other
  show other ∈ draft.ids.releaseAll _ ↔ other ∈ draft.dialogs.clear _
  rw [IdPool.mem_releaseAll, Arena.mem_clear, pooled other]

theorem clearOwned (previous : Destination) : (draft.clearOwned previous).IsPooled := by
  cases previous with
  | ending => exact pooled
  | redirect id => exact pooled
  | dialog owned => exact pooled.remove owned

theorem addOwned (parent : DialogId) (position : Nat) (d : Dialog) :
    (draft.addOwned parent position d).2.IsPooled := by
  cases known : draft.destination parent position with
  | error e =>
      rw [addOwned_of_error known]
      exact pooled
  | ok previous =>
      rw [addOwned_of_ok known]
      have added := (pooled.clearOwned previous).add d
      split
      · exact added
      · rename_i linked set
        exact added.setDestination set

/-- No edit parts the ids in use from the dialogs. -/
theorem perform (edit : Edit) : (draft.perform edit).2.IsPooled := by
  cases edit with
  | addRoot d => exact pooled.add d
  | addOption parent option =>
      refine orKeep_cases (motive := fun left => left.2.IsPooled) (fun _ _ => pooled)
        fun value added => ?_
      obtain ⟨d, -, same⟩ := bind_eq_ok_iff.mp added
      cases same
      exact pooled.modify parent _
  | addOwned parent position d =>
      rw [perform_addOwned]
      exact pooled.addOwned parent position d
  | redirect parent position target =>
      refine orKeep_cases (motive := fun left => left.2.IsPooled) (fun _ _ => pooled)
        fun value linked => ?_
      obtain ⟨d, -, set⟩ := bind_eq_ok_iff.mp linked
      exact pooled.setDestination set
  | close parent position =>
      exact orKeep_cases (motive := fun left => left.2.IsPooled) (fun _ _ => pooled)
        fun value set => pooled.setDestination set
  | remove id => exact pooled.remove id
  | revise id change => exact pooled.modify id change

end IsPooled

/-- Whatever writing comes to, the ids in use are those under which dialogs stand. -/
theorem isPooled_of_reached {allowed : Draft → Edit → Prop} {draft : Draft}
    (reached : Reached allowed draft) : draft.IsPooled := by
  induction reached with
  | blank => exact fun id => isSound_default.pooled
  | ofGraph made => exact fun id => (isSound_ofGraph made).pooled
  | perform _ _ ih => exact ih.perform _

/-! ## What keeps a draft sound -/

namespace IsSound

variable {draft : Draft}

theorem isPooled (sound : draft.IsSound) : draft.IsPooled := fun _ => sound.pooled

theorem modify (sound : draft.IsSound) {id : DialogId} {change : Dialog → Dialog}
    (story : Arena.IsSound (draft.dialogs.modify id change) draft.roots) :
    IsSound { draft with dialogs := draft.dialogs.modify id change } :=
  ⟨story, fun {other} => sound.isPooled.modify id change other⟩

theorem setDestination (sound : draft.IsSound) {parent : DialogId} {position : Nat}
    {destination : Destination} {after : Draft}
    (target : ∀ id, destination.id? = some id → id ∈ draft.dialogs ∧
      (destination = .dialog id → id ≠ parent ∧ ∀ next, ¬ draft.dialogs.Owns id next))
    (set : draft.setDestination parent position destination = .ok after) : after.IsSound := by
  obtain ⟨-, rfl⟩ := setDestination_eq_ok_iff.mp set
  refine sound.modify (sound.story.modify (fun _ _ => rfl) fun d found option offered => ?_)
  rcases Dialog.destination_of_mem_setDestination offered with ⟨old, kept, same⟩ | same
  · exact Or.inl ⟨d, found, old, kept, same⟩
  · exact Or.inr (same ▸ target)

theorem addOption (sound : draft.IsSound) {parent : DialogId} {option : DialogOption}
    (ends : option.destination = .ending) {value : Nat × Draft}
    (added : draft.addOption parent option = .ok value) : value.2.IsSound := by
  obtain ⟨d, found, same⟩ := bind_eq_ok_iff.mp added
  cases same
  refine sound.modify (sound.story.modify (fun _ _ => rfl) fun d found other offered => ?_)
  rcases List.mem_append.mp offered with kept | new
  · exact Or.inl ⟨d, found, other, kept, rfl⟩
  · rw [List.mem_singleton.mp new, ends]
    exact Or.inr fun id led => by cases led

theorem redirect (sound : draft.IsSound) {parent target : DialogId} {position : Nat}
    {after : Draft} (linked : draft.redirect parent position target = .ok after) :
    after.IsSound := by
  obtain ⟨d, found, set⟩ := bind_eq_ok_iff.mp linked
  refine sound.setDestination (fun id led => ?_) set
  cases led
  exact ⟨OrderedMap.mem_of_get?_eq_some (dialog_eq_ok_iff.mp found), fun other => by cases other⟩

theorem close (sound : draft.IsSound) {parent : DialogId} {position : Nat} {after : Draft}
    (closed : draft.close parent position = .ok after) : after.IsSound :=
  sound.setDestination (fun _ led => by cases led) closed

theorem revise (sound : draft.IsSound) {id : DialogId} {change : Dialog → Dialog}
    (plain : (Edit.revise id change).IsPlain draft) : (draft.revise id change).2.IsSound := by
  refine sound.modify (sound.story.modify (fun d found => (plain d found).1)
    fun d found option offered => Or.inl ?_)
  have listed : option.destination ∈ d.options.map DialogOption.destination := by
    rw [← (plain d found).2]
    exact List.mem_map_of_mem offered
  obtain ⟨old, kept, same⟩ := List.mem_map.mp listed
  exact ⟨d, found, old, kept, same⟩

/-- A plain dialog may be added while ids are left, also as a root. -/
theorem add (sound : draft.IsSound) (room : draft.ids.size < 2 ^ 31) {d : Dialog}
    (plain : d.IsPlain) : (draft.add d).2.IsSound ∧ (draft.addRoot d).2.IsSound := by
  obtain ⟨nonneg, fresh, -⟩ := IdPool.lowestFree_spec room
  have pooled {id : DialogId} := sound.isPooled.add d id
  have plain' : Dialog.IsPlain { d with id := draft.ids.lowestFree } := plain
  constructor
  · exact ⟨sound.story.insert nonneg rfl plain' fun root listed => Or.inr listed, pooled⟩
  · refine ⟨sound.story.insert nonneg rfl plain' fun root listed => ?_, pooled⟩
    have listed : root ∈ draft.roots ++ [draft.ids.lowestFree] := listed
    rw [List.mem_append, List.mem_singleton] at listed
    exact listed.symm

/-- An added dialog is new, is there afterwards, and owns nothing. -/
theorem fresh_add (sound : draft.IsSound) (room : draft.ids.size < 2 ^ 31) {d : Dialog}
    (plain : d.IsPlain) :
    (draft.add d).1 ∉ draft.dialogs ∧ (draft.add d).1 ∈ (draft.add d).2.dialogs ∧
      ∀ next, ¬ (draft.add d).2.dialogs.Owns (draft.add d).1 next := by
  have fresh : draft.ids.lowestFree ∉ draft.dialogs := by
    rw [← sound.pooled]
    exact (IdPool.lowestFree_spec room).2.1
  have plain' : Dialog.IsPlain { d with id := draft.ids.lowestFree } := plain
  refine ⟨fresh, (sound.add room plain).1.pooled.mp (IdPool.mem_insert.mpr (Or.inl rfl)),
    fun next owns => ?_⟩
  rw [Arena.owns_iff_leads] at owns
  rcases Arena.leads_insert plain' owns with ends | old
  · cases ends
  · exact fresh (Arena.mem_of_owns (Arena.owns_iff_leads.mpr old))

theorem remove (sound : draft.IsSound) (id : DialogId) : (draft.remove id).2.IsSound :=
  ⟨sound.story.clear _, fun {other} => sound.isPooled.remove id other⟩

/-- What an option owns can be cleared without losing the dialog of the option. -/
theorem clearOwned (sound : draft.IsSound) {parent : DialogId} {position : Nat}
    {previous : Destination} (known : draft.destination parent position = .ok previous) :
    (draft.clearOwned previous).IsSound ∧ parent ∈ (draft.clearOwned previous).dialogs ∧
      ∀ id ∈ (draft.clearOwned previous).dialogs, id ∈ draft.dialogs := by
  obtain ⟨d, option, found, there, rfl⟩ := destination_eq_ok_iff.mp known
  have present := OrderedMap.mem_of_get?_eq_some found
  cases led : option.destination with
  | ending => exact ⟨sound, present, fun _ kept => kept⟩
  | redirect id => exact ⟨sound, present, fun _ kept => kept⟩
  | dialog owned =>
      have owns : draft.dialogs.Owns parent owned :=
        Arena.owns_iff_leads.mpr ⟨d, found, option, List.mem_of_getElem? there, led⟩
      have outside := sound.story.loopFree.not_mem_chain owns
      exact ⟨sound.remove owned, Arena.mem_clear.mpr ⟨outside, present⟩,
        fun _ kept => (Arena.mem_clear.mp kept).2⟩

theorem addOwned (sound : draft.IsSound) (room : draft.dialogs.size < 2 ^ 31)
    {parent : DialogId} {position : Nat} {d : Dialog} (plain : d.IsPlain) :
    (draft.addOwned parent position d).2.IsSound := by
  cases known : draft.destination parent position with
  | error e =>
      rw [addOwned_of_error known]
      exact sound
  | ok previous =>
      rw [addOwned_of_ok known]
      obtain ⟨clearedSound, parentKept, within⟩ := sound.clearOwned known
      generalize draft.clearOwned previous = cleared at *
      have room : cleared.ids.size < 2 ^ 31 := Nat.lt_of_le_of_lt
        (size_ids_le fun id used => within id (clearedSound.pooled.mp used)) room
      obtain ⟨fresh, there, leaf⟩ := clearedSound.fresh_add room plain
      obtain ⟨addedSound, -⟩ := clearedSound.add room plain
      cases set : (cleared.add d).2.setDestination parent position
          (.dialog (cleared.add d).1) with
      | error e => exact addedSound
      | ok linked =>
          refine addedSound.setDestination (fun id led => ?_) set
          obtain rfl : (cleared.add d).1 = id := by simpa [Destination.id?] using led
          exact ⟨there, fun _ => ⟨fun same => fresh (same ▸ parentKept), leaf⟩⟩

/-- One plain edit keeps a draft sound while ids are left. -/
theorem perform (sound : draft.IsSound) (room : draft.dialogs.size < 2 ^ 31) {edit : Edit}
    (plain : edit.IsPlain draft) : (draft.perform edit).2.IsSound := by
  have few : draft.ids.size < 2 ^ 31 :=
    Nat.lt_of_le_of_lt (size_ids_le fun _ used => sound.pooled.mp used) room
  cases edit with
  | addRoot d => exact (sound.add few plain).2
  | addOption parent option =>
      exact orKeep_cases (motive := fun left => left.2.IsSound) (fun _ _ => sound)
        fun _ added => sound.addOption plain added
  | addOwned parent position d =>
      rw [perform_addOwned]
      exact sound.addOwned room plain
  | redirect parent position target =>
      exact orKeep_cases (motive := fun left => left.2.IsSound) (fun _ _ => sound)
        fun _ linked => sound.redirect linked
  | close parent position =>
      exact orKeep_cases (motive := fun left => left.2.IsSound) (fun _ _ => sound)
        fun _ closed => sound.close closed
  | remove id => exact sound.remove id
  | revise id change => exact sound.revise plain

end IsSound

/-- Whatever plain writing comes to is sound. -/
theorem isSound_of_reached {draft : Draft}
    (reached : Reached (fun draft edit => edit.IsPlain draft ∧ draft.dialogs.size < 2 ^ 31) draft) :
    draft.IsSound := by
  induction reached with
  | blank => exact isSound_default
  | ofGraph made => exact isSound_ofGraph made
  | perform _ fits ih => exact ih.perform fits.2 fits.1

/-- Whatever plain writing comes to can be finished as it stands. Fewer than `2 ^ 31`
dialogs are asked for before each edit, so that there is an id left for it. -/
theorem build_eq_ok_of_reached {draft : Draft}
    (reached : Reached (fun draft edit => edit.IsPlain draft ∧ draft.dialogs.size < 2 ^ 31) draft) :
    draft.build = .ok ⟨draft.dialogs, draft.roots⟩ ∧
      IsStory draft.dialogs.values draft.roots := by
  have sound := isSound_of_reached reached
  have lists := Arena.lists_values sound.story.keyed
  exact ⟨sound.build_eq_ok, (Arena.isStory_iff_isSound lists).mpr sound.story⟩

/-- A root with two options, the first of which comes to own a dialog that leads back to the
root, and then, in its place, another one. -/
theorem build_eq_ok_of_replaced :
    let twoOptions : Dialog := { (default : Dialog) with options := [default, default] }
    let draft := (default : Draft).performAll
      [.addRoot twoOptions, .addOwned 0 0 twoOptions, .redirect 1 0 0, .addOwned 0 0 twoOptions]
    draft.build = .ok ⟨draft.dialogs, draft.roots⟩ ∧ IsStory draft.dialogs.values draft.roots := by
  intro twoOptions
  have plain : twoOptions.IsPlain := by decide
  refine build_eq_ok_of_reached (.perform (.perform (.perform (.perform .blank ?_) ?_) ?_) ?_)
  · exact ⟨plain, by decide⟩
  · exact ⟨plain, by decide⟩
  · exact ⟨trivial, by decide⟩
  · exact ⟨plain, by decide⟩

end Parley.Draft
