/-
# Changes that keep an arena sound

While a story is written, dialogs are added, changed in place and cleared away. For each
of these changes this module says which options lead where afterwards, and under what
condition a sound arena stays sound. A loop can only be closed by giving a dialog
something to own that owns something itself, so new ownership is safe while it goes to
dialogs that own nothing.
-/

import Parley.Draft.Edit
import Parley.Proofs.Validation

namespace Parley

open Relation

/-- Every option ends the conversation. -/
def Dialog.IsPlain (d : Dialog) : Prop := ∀ option ∈ d.options, option.destination = .ending

instance (d : Dialog) : Decidable d.IsPlain :=
  inferInstanceAs (Decidable (∀ option ∈ d.options, option.destination = .ending))

theorem Destination.unlink_eq {removed : List DialogId} {destination : Destination}
    {id : DialogId} (leads : (destination.unlink removed).id? = some id) :
    destination.unlink removed = destination ∧ id ∉ removed := by
  unfold unlink at leads ⊢
  split
  · simp_all [Destination.id?]
  · simp_all

theorem Dialog.destination_of_mem_setDestination {d : Dialog} {position : Nat}
    {destination : Destination} {option : DialogOption}
    (offered : option ∈ (d.setDestination position destination).options) :
    (∃ old ∈ d.options, old.destination = option.destination) ∨
      option.destination = destination := by
  obtain ⟨i, found⟩ := List.mem_iff_getElem?.mp offered
  rw [Dialog.setDestination, List.getElem?_modify] at found
  obtain ⟨old, there, rfl⟩ := Option.map_eq_some_iff.mp found
  split
  · exact Or.inr rfl
  · exact Or.inl ⟨old, List.mem_of_getElem? there, rfl⟩

namespace Arena

/-! ## Where options lead after a change -/

theorem leads_insert {arena : Arena} {id owner : DialogId} {d : Dialog}
    {destination : Destination} (plain : d.IsPlain)
    (leads : Leads (arena.insert id d) owner destination) :
    destination = .ending ∨ arena.Leads owner destination := by
  obtain ⟨other, found, option, offered, rfl⟩ := leads
  rw [OrderedMap.get?_insert] at found
  split at found
  · cases found
    exact Or.inl (plain option offered)
  · exact Or.inr ⟨other, found, option, offered, rfl⟩

theorem leads_modify {arena : Arena} {parent owner : DialogId} {change : Dialog → Dialog}
    {destination : Destination} (leads : Leads (arena.modify parent change) owner destination) :
    arena.Leads owner destination ∨
      owner = parent ∧ ∃ d, arena.get? parent = some d ∧
        ∃ option ∈ (change d).options, option.destination = destination := by
  obtain ⟨other, found, option, offered, rfl⟩ := leads
  rw [OrderedMap.get?_modify] at found
  split at found
  · rename_i same
    subst same
    obtain ⟨d, old, rfl⟩ := Option.map_eq_some_iff.mp found
    exact Or.inr ⟨rfl, d, old, option, offered, rfl⟩
  · exact Or.inl ⟨other, found, option, offered, rfl⟩

/-- The arena without some dialogs, where options that led to them end. -/
def clear (arena : Arena) (removed : List DialogId) : Arena :=
  (removed.foldl OrderedMap.erase arena).mapValues fun d => d.mapDestinations (·.unlink removed)

theorem get?_clear (arena : Arena) (removed : List DialogId) (id : DialogId) :
    (arena.clear removed).get? id =
      if id ∈ removed then none
      else (arena.get? id).map (·.mapDestinations (·.unlink removed)) := by
  rw [clear, OrderedMap.get?_mapValues, OrderedMap.get?_foldl_erase]
  split <;> rfl

theorem mem_clear {arena : Arena} {removed : List DialogId} {id : DialogId} :
    id ∈ arena.clear removed ↔ id ∉ removed ∧ id ∈ arena := by
  rw [OrderedMap.mem_iff_exists_get?, OrderedMap.mem_iff_exists_get?,
    ← Option.isSome_iff_exists, ← Option.isSome_iff_exists, get?_clear]
  split <;> simp [*]

theorem leads_clear {arena : Arena} {removed : List DialogId} {owner id : DialogId}
    {destination : Destination} (leads : (arena.clear removed).Leads owner destination)
    (on : destination.id? = some id) : arena.Leads owner destination ∧ id ∉ removed := by
  obtain ⟨d, found, option, offered, rfl⟩ := leads
  rw [get?_clear] at found
  split at found
  · cases found
  · obtain ⟨old, kept, rfl⟩ := Option.map_eq_some_iff.mp found
    obtain ⟨before, offered, rfl⟩ := List.mem_map.mp offered
    obtain ⟨same, outside⟩ := Destination.unlink_eq on
    exact ⟨⟨old, kept, before, ‹_›, same.symm⟩, outside⟩

/-! ## Soundness -/

/-- No loop arises while whatever is newly owned owns nothing. -/
theorem IsLoopFree.of_owns {arena after : Arena} (loopFree : arena.IsLoopFree)
    (grows : ∀ owner owned, after.Owns owner owned →
      arena.Owns owner owned ∨ ∀ next, ¬ after.Owns owned next) : after.IsLoopFree := by
  -- Inside a loop every dialog owns the next one, so no link of it can be new.
  have old : ∀ {start last next}, TransGen after.Owns start last → after.Owns last next →
      TransGen arena.Owns start last := by
    intro start last next path
    induction path generalizing next with
    | single owns =>
        intro onward
        exact .single ((grows _ _ owns).resolve_right fun leaf => leaf next onward)
    | tail _ owns ih =>
        intro onward
        exact (ih owns).tail ((grows _ _ owns).resolve_right fun leaf => leaf next onward)
  intro id loop
  obtain ⟨next, owns, -⟩ := TransGen.head'_iff.mp loop
  exact loopFree id (old loop owns)

theorem IsSound.insert {arena : Arena} {roots : List DialogId} (sound : arena.IsSound roots)
    {id : DialogId} {d : Dialog} (nonneg : 0 ≤ id) (named : d.id = id) (plain : d.IsPlain)
    {grown : List DialogId} (rooted : ∀ root ∈ grown, root = id ∨ root ∈ roots) :
    IsSound (arena.insert id d) grown := by
  have member {other : DialogId} : other ∈ arena.insert id d ↔ other = id ∨ other ∈ arena := by
    simp only [OrderedMap.mem_iff_exists_get?, OrderedMap.get?_insert]
    split <;> simp [*]
  refine ⟨fun {other e} found => ?_, fun present => ?_, fun listed => ?_,
    fun {owner destination target} leads on => ?_, ?_⟩
  · rw [OrderedMap.get?_insert] at found
    split at found
    · cases found
      simp [*]
    · exact sound.keyed found
  · rcases member.mp present with rfl | present
    · exact nonneg
    · exact sound.nonneg present
  · exact member.mpr ((rooted _ listed).imp_right sound.rooted)
  · rcases leads_insert plain leads with rfl | leads
    · cases on
    · exact member.mpr (Or.inr (sound.linked leads on))
  · refine sound.loopFree.of_owns fun owner owned owns => Or.inl ?_
    rw [owns_iff_leads] at owns ⊢
    exact (leads_insert plain owns).resolve_left (by simp)

/-- A dialog may be changed in place while it keeps its id and leads where it led before,
to dialogs that are there, and to new dialogs of its own only where those own nothing. -/
theorem IsSound.modify {arena : Arena} {roots : List DialogId} (sound : arena.IsSound roots)
    {parent : DialogId} {change : Dialog → Dialog}
    (named : ∀ d, arena.get? parent = some d → (change d).id = d.id)
    (leads : ∀ d, arena.get? parent = some d → ∀ option ∈ (change d).options,
      arena.Leads parent option.destination ∨ ∀ id, option.destination.id? = some id →
        id ∈ arena ∧ (option.destination = .dialog id →
          id ≠ parent ∧ ∀ next, ¬ arena.Owns id next)) :
    IsSound (arena.modify parent change) roots := by
  have member {id : DialogId} : id ∈ arena.modify parent change ↔ id ∈ arena := by
    rw [OrderedMap.mem_iff, OrderedMap.keys_modify, OrderedMap.mem_iff]
  refine ⟨fun {id d} found => ?_, fun present => sound.nonneg (member.mp present),
    fun listed => member.mpr (sound.rooted listed), fun {owner destination id} led on => ?_, ?_⟩
  · rw [OrderedMap.get?_modify] at found
    split at found
    · rename_i same
      subst same
      obtain ⟨old, kept, rfl⟩ := Option.map_eq_some_iff.mp found
      rw [named old kept, sound.keyed kept]
    · exact sound.keyed found
  · rw [member]
    rcases leads_modify led with led | ⟨rfl, d, found, option, offered, rfl⟩
    · exact sound.linked led on
    · rcases leads d found option offered with old | new
      · exact sound.linked old on
      · exact (new id on).1
  · refine sound.loopFree.of_owns fun owner owned owns => ?_
    rw [owns_iff_leads] at owns ⊢
    rcases leads_modify owns with old | ⟨rfl, d, found, option, offered, dest⟩
    · exact Or.inl old
    · rcases leads d found option offered with old | new
      · exact Or.inl (dest ▸ old)
      · refine Or.inr fun next onward => ?_
        obtain ⟨apart, leaf⟩ := (new owned (by simp [dest, Destination.id?])).2 dest
        rw [owns_iff_leads] at onward
        rcases leads_modify onward with onward | ⟨same, -⟩
        · exact leaf next (owns_iff_leads.mpr onward)
        · exact apart same

theorem IsSound.clear {arena : Arena} {roots : List DialogId} (sound : arena.IsSound roots)
    (removed : List DialogId) :
    IsSound (arena.clear removed) (roots.filter (· ∉ removed)) := by
  refine ⟨fun {id d} found => ?_, fun present => sound.nonneg (mem_clear.mp present).2,
    fun {root} listed => ?_, fun leads on => ?_, ?_⟩
  · rw [get?_clear] at found
    split at found
    · cases found
    · obtain ⟨old, kept, rfl⟩ := Option.map_eq_some_iff.mp found
      show old.id = id
      exact sound.keyed kept
  · rw [List.mem_filter] at listed
    exact mem_clear.mpr ⟨by simpa using listed.2, sound.rooted listed.1⟩
  · obtain ⟨led, outside⟩ := leads_clear leads on
    exact mem_clear.mpr ⟨outside, sound.linked led on⟩
  · refine sound.loopFree.of_owns fun owner owned owns => Or.inl ?_
    rw [owns_iff_leads] at owns ⊢
    exact (leads_clear owns rfl).1

end Arena

end Parley
