/-
# Taking a new dialog back

To go on writing a finished story and to finish it again at once gives that very story. And a new
dialog that was only just added can be taken back without a trace: when it is removed, the draft
is the one from before in everything, down to the order of the dialogs and the ids in use.

`Draft.Grows` says what an addition leaves behind. The dialogs that were there keep their places,
and at most an option that ended the conversation leads to the new dialog. So it is enough to end
the options that lead to it. That this ends no other option, and drops no root that was there,
rests on the new id being free: in a sound draft nothing leads to an id under which no dialog
stands.
-/

import Mathlib
import Parley.Proofs.Draft.Replacing

namespace Parley

namespace OrderedMap

variable {κ α : Type} [DecidableEq κ]

theorem entries_eq_filterMap (m : OrderedMap κ α) :
    m.entries = m.keys.filterMap fun k => (m.get? k).map (Prod.mk k) := by
  rw [keys, List.filterMap_map]
  symm
  calc
    _ = m.entries.filterMap some := by
      apply List.filterMap_congr
      rintro ⟨k, value⟩ listed
      rw [Function.comp_apply, get?_eq_some_iff.mpr listed]
      rfl
    _ = m.entries := List.filterMap_some

/-- A map is made by the order of its keys and by what stands under them. -/
theorem ext_get? {m n : OrderedMap κ α} (keys : m.keys = n.keys)
    (same : ∀ k, m.get? k = n.get? k) : m = n := by
  ext1
  rw [entries_eq_filterMap, entries_eq_filterMap, keys]
  simp only [same]

end OrderedMap

/-- A dialog whose options were led elsewhere is the old one again when they are led back. -/
theorem Dialog.Rewires.mapDestinations_eq {leads : Nat → Destination → Destination → Prop}
    {before after : Dialog} (rewires : before.Rewires leads after)
    {change : Destination → Destination}
    (back : ∀ {i option new}, before.options[i]? = some option → leads i option.destination new →
      change new = option.destination) :
    after.mapDestinations change = before := by
  have options : (after.mapDestinations change).options = before.options := by
    apply List.ext_getElem?
    intro i
    rw [mapDestinations, List.getElem?_map]
    cases there : before.options[i]? with
    | some option =>
        obtain ⟨new, here, leads⟩ := rewires.offered there
        rw [here, Option.map_some, back there leads]
    | none =>
        have behind : after.options[i]? = none := by
          rw [List.getElem?_eq_none_iff] at there ⊢
          rwa [rewires.count]
        rw [behind, Option.map_none]
  calc
    after.mapDestinations change
        = { after with options := (after.mapDestinations change).options } := rfl
    _ = { after with options := before.options } := by rw [options]
    _ = before := rewires.said

namespace Arena

variable {a b : Arena} {cleared added : List DialogId}

theorem Continues.mono {goesOn goesOn' : DialogId → Dialog → Dialog → Prop}
    (continues : a.Continues b cleared added goesOn)
    (weaker : ∀ {id d e}, a.get? id = some d → goesOn id d e → goesOn' id d e) :
    a.Continues b cleared added goesOn' where
  keys := continues.keys
  kept found outside := by
    obtain ⟨e, there, goesOn⟩ := continues.kept found outside
    exact ⟨e, there, weaker found goesOn⟩

/-- Clearing what was added leaves what was there, if this gives each dialog that went on back. -/
theorem Continues.clear_eq
    (continues : a.Continues b [] added
      fun _ before after => after.mapDestinations (·.unlink added) = before)
    (fresh : ∀ id ∈ added, id ∉ a) : b.clear added = a := by
  apply OrderedMap.ext_get?
  · have outside : a.keys.filter (· ∉ added) = a.keys := by
      apply List.filter_eq_self.mpr
      intro key listed
      exact decide_eq_true fun new => fresh key new listed
    have gone : added.filter (· ∉ added) = [] := by simp
    have same : a.keys.filter (· ∉ ([] : List DialogId)) = a.keys := by simp
    rw [keys_clear, continues.keys, List.filter_append, same, outside, gone, List.append_nil]
  · intro id
    rw [get?_clear]
    split
    · rename_i new
      exact (OrderedMap.get?_eq_none_iff.mpr (fresh id new)).symm
    · rename_i old
      cases found : a.get? id with
      | some d =>
          obtain ⟨e, there, back⟩ := continues.kept found List.not_mem_nil
          rw [there, Option.map_some, back]
      | none =>
          have absent : id ∉ b := by
            rw [OrderedMap.mem_iff, continues.keys, List.mem_append, List.mem_filter]
            rintro (⟨present, -⟩ | new)
            · exact OrderedMap.get?_eq_none_iff.mp found present
            · exact old new
          rw [OrderedMap.get?_eq_none_iff.mpr absent, Option.map_none]

/-- A dialog that owns nothing is its own chain. -/
theorem chain_of_leaf {arena : Arena} {id : DialogId} (present : id ∈ arena)
    (leaf : arena.ownedIds id = []) : arena.chain id = [id] := by
  simp [chain, present, walk, leaf]

end Arena

theorem Dialog.ownedIds_of_isPlain {d : Dialog} (plain : d.IsPlain) : d.ownedIds = [] := by
  apply List.filterMap_eq_nil_iff.mpr
  intro option offered
  rw [plain option offered]
  rfl

/-- An id that is reserved and freed again leaves the pool as it was. -/
theorem IdPool.releaseAll_insert {pool : IdPool} {id : DialogId} (free : id ∉ pool) :
    (pool.insert id).releaseAll [id] = pool := by
  have reserved : pool.insert id = ⟨id :: pool.ids, List.nodup_cons.mpr ⟨free, pool.nodup⟩⟩ :=
    dif_neg free
  rw [reserved]
  simp [releaseAll, release]

namespace Draft

/-- A draft grows by a dialog that owns nothing. It comes behind the dialogs that were there, of
which at most options that ended the conversation lead to it, and it may come to be a root. -/
structure Grows (before after : Draft) (id : DialogId) : Prop where
  dialogs : before.dialogs.Continues after.dialogs [] [id]
    fun _ => Dialog.Rewires fun _ old new => new = old ∨ old = .ending ∧ new = .dialog id
  leaf : after.dialogs.ownedIds id = []
  roots : ∃ more, after.roots = before.roots ++ more ∧ ∀ root ∈ more, root = id
  ids : after.ids = before.ids.insert id

/-- What a sound draft grew by can be taken back. -/
theorem Grows.remove_added {before after : Draft} {id : DialogId} (grows : before.Grows after id)
    (sound : before.IsSound) (fresh : id ∉ before.dialogs) :
    after.remove id = ([id], before) := by
  have present : id ∈ after.dialogs := by
    rw [OrderedMap.mem_iff, grows.dialogs.keys]
    exact List.mem_append_right _ (List.mem_singleton_self id)
  have dialogs : after.dialogs.clear [id] = before.dialogs := by
    refine Arena.Continues.clear_eq (grows.dialogs.mono fun {owner d e} found rewires => ?_) ?_
    · refine rewires.mapDestinations_eq fun {i option new} there leads => ?_
      rcases leads with rfl | ⟨ended, rfl⟩
      · -- Where an option leads there is a dialog, so it cannot be to the new id.
        refine (option.destination.forgets_unlink [id]).stays fun other listed onward => ?_
        obtain rfl := List.mem_singleton.mp listed
        exact fresh (sound.story.linked ⟨d, found, option, List.mem_of_getElem? there, rfl⟩ onward)
      · rw [ended]
        exact ((Destination.dialog id).forgets_unlink [id]).ends id (List.mem_singleton_self id) rfl
    · intro other listed
      exact List.mem_singleton.mp listed ▸ fresh
  have roots : after.roots.filter (· ∉ [id]) = before.roots := by
    obtain ⟨more, same, new⟩ := grows.roots
    have old : before.roots.filter (· ∉ [id]) = before.roots := by
      apply List.filter_eq_self.mpr
      intro root listed
      refine decide_eq_true fun here => fresh ?_
      exact List.mem_singleton.mp here ▸ sound.story.rooted listed
    have gone : more.filter (· ∉ [id]) = [] := by
      apply List.filter_eq_nil_iff.mpr
      intro root listed
      simp [new root listed]
    rw [same, List.filter_append, old, gone, List.append_nil]
  have ids : after.ids.releaseAll [id] = before.ids := by
    rw [grows.ids, IdPool.releaseAll_insert fun used => fresh (sound.pooled.mp used)]
  rw [Draft.remove_eq, Arena.chain_of_leaf present grows.leaf, clear, dialogs, roots, ids]

section Sound

variable {draft : Draft} (sound : draft.IsSound) (room : draft.dialogs.size < 2 ^ 31)

include sound room

theorem IsSound.lowestFree_not_mem : draft.ids.lowestFree ∉ draft.dialogs := by
  have few := Nat.lt_of_le_of_lt (size_ids_le fun id used => sound.pooled.mp used) room
  exact (sound.isPooled.isLowestFree few).free

theorem IsSound.grows_addRoot {d : Dialog} (plain : d.IsPlain) :
    draft.Grows (draft.addRoot d).2 (draft.addRoot d).1 where
  dialogs := by
    have added : draft.dialogs.Continues (draft.addRoot d).2.dialogs [] [draft.ids.lowestFree]
        fun _ => Eq :=
      Arena.continues_insert (fun _ _ => rfl) (sound.lowestFree_not_mem room)
        { d with id := draft.ids.lowestFree }
    refine added.mono fun {owner e f} _ same => ?_
    rw [← same]
    exact ⟨rfl, rfl, fun {i option} there => ⟨option.destination, there, Or.inl rfl⟩⟩
  leaf := by
    show Arena.ownedIds (draft.dialogs.insert draft.ids.lowestFree _) draft.ids.lowestFree = []
    rw [Arena.ownedIds, OrderedMap.get?_insert, if_pos rfl]
    exact Dialog.ownedIds_of_isPlain plain
  roots := ⟨[_], rfl, fun root => List.mem_singleton.mp⟩
  ids := rfl

/-- An option that ends the conversation can be given a new dialog to own. -/
theorem IsSound.grows_addOwned {parent : DialogId} {position : Nat} {p d : Dialog}
    {option : DialogOption} (found : draft.dialogs.get? parent = some p)
    (offered : p.options[position]? = some option) (ends : option.destination = .ending)
    (plain : d.IsPlain) :
    ∃ after, draft.addOwned parent position d = (.ok draft.ids.lowestFree, after) ∧
      draft.Grows after draft.ids.lowestFree := by
  have known : draft.destination parent position = .ok .ending :=
    destination_eq_ok_iff.mpr ⟨p, option, found, offered, ends⟩
  have fresh := sound.lowestFree_not_mem room
  have apart : draft.ids.lowestFree ≠ parent := by
    rintro rfl
    exact fresh (OrderedMap.mem_of_get?_eq_some found)
  have kept : parent ∉ draft.cleared (.addOwned parent position d) := sound.not_mem_cleared known
  obtain ⟨after, set⟩ : ∃ after, ((draft.clearOwned .ending).add d).2.setDestination parent position
      (.dialog ((draft.clearOwned .ending).add d).1) = .ok after :=
    ⟨_, setDestination_eq_ok_iff.mpr
      ⟨exists_destination_of_not_cleared sound.isPooled room known kept, rfl⟩⟩
  have linked : draft.addOwned parent position d = (.ok draft.ids.lowestFree, after) := by
    rw [addOwned_of_ok known, set]
    rfl
  obtain ⟨-, same⟩ := setDestination_eq_ok_iff.mp set
  have dialogs : after.dialogs =
      (draft.dialogs.insert draft.ids.lowestFree { d with id := draft.ids.lowestFree }).modify
        parent (·.setDestination position (.dialog draft.ids.lowestFree)) := by
    rw [same]
    rfl
  have roots : after.roots = draft.roots ++ [] := by
    rw [same, List.append_nil]
    rfl
  have ids : after.ids = draft.ids.insert draft.ids.lowestFree := by
    rw [same]
    rfl
  refine ⟨after, linked, ?_, ?_, ⟨[], roots, fun _ listed => by cases listed⟩, ids⟩ <;> rw [dialogs]
  · have forgets : draft.Forgets draft [] := by
      have cleared := draft.forgets_clear []
      rwa [clear_nil] at cleared
    have continues := forgets.continues_link fresh { d with id := draft.ids.lowestFree } parent
      position
    refine continues.mono fun {owner before e} there rewires => ?_
    refine ⟨rewires.said, rewires.count, fun {i other} here => ?_⟩
    obtain ⟨new, placed, relinks⟩ := rewires.offered here
    refine ⟨new, placed, ?_⟩
    unfold Relinks at relinks
    split at relinks
    · rename_i same
      obtain ⟨rfl, rfl⟩ := same
      obtain rfl : p = before := Option.some.inj (found.symm.trans there)
      obtain rfl : option = other := Option.some.inj (offered.symm.trans here)
      exact Or.inr ⟨ends, relinks⟩
    · exact Or.inl (relinks.stays fun _ listed => by cases listed)
  · rw [Arena.ownedIds, OrderedMap.get?_modify, if_neg apart, OrderedMap.get?_insert, if_pos rfl]
    exact Dialog.ownedIds_of_isPlain plain

end Sound

/-- A story in which two roots own the same dialog and the ids one, three and four are free. -/
def lattice : Graph where
  dialogs :=
    { entries :=
        [(5, { (default : Dialog) with
            id := 5
            options := [{ (default : DialogOption) with destination := .dialog 2 }, default] }),
          (0, { (default : Dialog) with
            options :=
              [{ (default : DialogOption) with destination := .redirect 5 },
                { (default : DialogOption) with destination := .dialog 2 }] }),
          (2, { (default : Dialog) with
            id := 2
            options := [{ (default : DialogOption) with destination := .redirect 0 }] })]
      nodup := by decide }
  roots := [5, 0]

/-- A finished story is finished again as it was. A root that is added to it, or a dialog for an
option that ended the conversation, can be taken back: the draft is then what it was before. -/
theorem build_and_remove_ofGraph {dialogs : List Dialog} {roots : List DialogId} {g : Graph}
    (made : Graph.ofDialogs dialogs roots = .ok g) (room : g.size < 2 ^ 31) :
    (ofGraph g).build = .ok g ∧
      (∀ d : Dialog, d.IsPlain → ∃ id added, (ofGraph g).addRoot d = (id, added) ∧
        added.remove id = ([id], ofGraph g)) ∧
      ∀ parent position p option (d : Dialog), g.get? parent = some p →
        p.options[position]? = some option → option.destination = .ending → d.IsPlain →
          ∃ id added, (ofGraph g).addOwned parent position d = (.ok id, added) ∧
            added.remove id = ([id], ofGraph g) := by
  have sound : (ofGraph g).IsSound := isSound_ofGraph made
  have fresh := sound.lowestFree_not_mem room
  refine ⟨sound.build_eq_ok, fun d plain => ?_, fun parent position p option d found offered ends
    plain => ?_⟩
  · exact ⟨_, _, rfl, (sound.grows_addRoot room plain).remove_added sound fresh⟩
  · obtain ⟨added, linked, grows⟩ := sound.grows_addOwned room found offered ends plain
    exact ⟨_, added, linked, grows.remove_added sound fresh⟩

/-- What is added to the lattice comes under the first of the free ids, as a root or owned by the
second option of the first dialog, and goes again. -/
theorem build_and_remove_ofGraph_lattice :
    Graph.ofDialogs lattice.toList [5, 0] = .ok lattice ∧ lattice.size < 2 ^ 31 ∧
      (ofGraph lattice).build = .ok lattice ∧
      (∃ added, (ofGraph lattice).addRoot default = (1, added) ∧ added.roots = [5, 0, 1] ∧
        added.remove 1 = ([1], ofGraph lattice)) ∧
      ∃ added, (ofGraph lattice).addOwned 5 1 default = (.ok 1, added) ∧
        added.destination 5 1 = .ok (.dialog 1) ∧ added.remove 1 = ([1], ofGraph lattice) := by
  have made : Graph.ofDialogs lattice.toList [5, 0] = .ok lattice := by cbv
  have room : lattice.size < 2 ^ 31 := by decide
  have plain : Dialog.IsPlain default := by decide
  have first : ((ofGraph lattice).addRoot default).1 = 1 := by cbv
  have rooted : ((ofGraph lattice).addRoot default).2.roots = [5, 0, 1] := by cbv
  have owned : ((ofGraph lattice).addOwned 5 1 default).1 = .ok 1 := by cbv
  have linked : ((ofGraph lattice).addOwned 5 1 default).2.destination 5 1 = .ok (.dialog 1) := by
    cbv
  obtain ⟨built, root, dialog⟩ := build_and_remove_ofGraph made room
  refine ⟨made, room, built, ?_, ?_⟩
  · obtain ⟨id, added, same, undone⟩ := root default plain
    rw [same] at first rooted
    obtain rfl : id = 1 := first
    exact ⟨added, same, rooted, undone⟩
  · obtain ⟨id, added, same, undone⟩ := dialog 5 1 _ default default rfl rfl rfl plain
    rw [same] at owned linked
    obtain rfl : id = 1 := Except.ok.inj owned
    exact ⟨added, same, linked, undone⟩

end Draft

end Parley
