/-
# What a search finds

A story is searched for a dialog by walking from its roots through what dialogs own. In a
story that stands, the search finds exactly the dialogs that can be reached in this way. A
dialog that only redirections lead to is not found, though it is there.
-/

import Parley.Proofs.Validation

namespace Parley.Graph

open Relation

/-- A dialog can be reached from a root by going to what dialogs own. -/
def Reached (g : Graph) (id : DialogId) : Prop := ∃ root ∈ g.roots, g.dialogs.Reaches root id

theorem mem_walk_roots_iff {g : Graph} {id : DialogId} :
    id ∈ g.dialogs.walk [] g.roots ↔ g.Reached id :=
  Arena.mem_walk_nil_iff

theorem Reached.of_owns {g : Graph} {owner owned : DialogId} (reached : g.Reached owner)
    (owns : g.dialogs.Owns owner owned) : g.Reached owned := by
  obtain ⟨root, listed, path⟩ := reached
  exact ⟨root, listed, path.tail owns⟩

/-- Whatever is found carries the id that was sought and was met on the walk. -/
theorem of_find?_eq_some {g : Graph} {id : DialogId} {d : Dialog} (found : g.find? id = some d) :
    d.id = id ∧ ∃ met, g.Reached met ∧ g.get? met = some d := by
  obtain ⟨met, listed, kept⟩ := List.exists_of_findSome?_eq_some found
  obtain ⟨there, named⟩ := Option.filter_eq_some_iff.mp kept
  exact ⟨eq_of_beq named, met, mem_walk_roots_iff.mp listed, there⟩

variable {g : Graph} (sound : g.dialogs.IsSound g.roots)

include sound

theorem mem_of_reached {id : DialogId} (reached : g.Reached id) : id ∈ g.dialogs := by
  obtain ⟨root, listed, path⟩ := reached
  cases path with
  | refl => exact sound.rooted listed
  | tail _ owns => exact sound.linked (Arena.owns_iff_leads.mp owns) rfl

/-- In a sound story the search finds the dialogs that can be reached. -/
theorem find?_eq_some_iff {id : DialogId} {d : Dialog} :
    g.find? id = some d ↔ g.Reached id ∧ g.get? id = some d := by
  have met {e : Dialog} (found : g.find? id = some e) : g.Reached id ∧ g.get? id = some e := by
    obtain ⟨named, other, reached, there⟩ := of_find?_eq_some found
    obtain rfl : other = id := (sound.keyed there).symm.trans named
    exact ⟨reached, there⟩
  constructor
  · exact met
  · rintro ⟨reached, there⟩
    have some : (g.find? id).isSome := by
      rw [find?, List.findSome?_isSome_iff]
      refine ⟨id, mem_walk_roots_iff.mpr reached, ?_⟩
      simp [there, Option.filter, sound.keyed there]
    obtain ⟨e, found⟩ := Option.isSome_iff_exists.mp some
    rw [found, ← there, (met found).2]

theorem find?_eq_none_iff {id : DialogId} : g.find? id = none ↔ ¬ g.Reached id := by
  constructor
  · intro none reached
    obtain ⟨d, there⟩ := OrderedMap.mem_iff_exists_get?.mp (mem_of_reached sound reached)
    have found : g.find? id = some d := (find?_eq_some_iff sound).mpr ⟨reached, there⟩
    simp [none] at found
  · intro unreached
    rw [Option.eq_none_iff_forall_ne_some]
    exact fun d found => unreached ((find?_eq_some_iff sound).mp found).1

end Parley.Graph
