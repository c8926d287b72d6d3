/-
# What a removal reports

A removal reports the ids it met while it followed what the dialog owns. It looks whether the
first of them has a dialog, and at none of the others. `Draft.ReportsWhatGoes` is what such a
report should be: each id once, and exactly those under which a dialog stood before and stands no
longer.

No id is reported twice, and no dialog goes without being reported. An id too many is reported
exactly if an option of a dialog that goes owns a dialog that is missing. The draft need not make
sense for this, and where it does, the report is right.
-/

import Mathlib
import Parley.Proofs.Chains
import Parley.Proofs.Draft.Removing

namespace Parley

open Relation

namespace Arena

variable {arena : Arena} {root : DialogId}

theorem nodup_chain (arena : Arena) (root : DialogId) : (arena.chain root).Nodup := by
  unfold chain
  split
  · exact arena.nodup_walk [] [root]
  · exact List.nodup_nil

/-- A dialog with which something else comes is there. -/
theorem mem_of_comesWith {owner owned : DialogId} (path : arena.ComesWith root owner)
    (leads : arena.Leads owner (.dialog owned)) : root ∈ arena := by
  rcases path.cases_head with rfl | ⟨next, first, -⟩
  · exact mem_of_owns (owns_iff_leads.mpr leads)
  · exact mem_of_owns (owns_iff_leads.mpr first)

/-- What a chain lists without a dialog being there is owned by a dialog of the chain. -/
theorem exists_owner_of_mem_chain {id : DialogId} (listed : id ∈ arena.chain root)
    (absent : id ∉ arena) : ∃ owner ∈ arena.chain root, arena.Leads owner (.dialog id) := by
  obtain ⟨present, path⟩ := mem_chain_iff_comesWith.mp listed
  rcases path.cases_tail with same | ⟨owner, before, leads⟩
  · exact absurd (same ▸ present) absent
  · exact ⟨owner, mem_chain_iff_comesWith.mpr ⟨present, before⟩, leads⟩

/-- A chain lists nothing but dialogs exactly if what its dialogs own is there. -/
theorem chain_subset_keys_iff :
    (∀ id ∈ arena.chain root, id ∈ arena) ↔
      ∀ owner owned, arena.ComesWith root owner → arena.Leads owner (.dialog owned) →
        owned ∈ arena := by
  constructor
  · intro there owner owned path leads
    have present := mem_of_comesWith path leads
    exact there owned (mem_chain_iff_comesWith.mpr ⟨present, path.tail leads⟩)
  · intro closed id listed
    by_contra absent
    obtain ⟨owner, before, leads⟩ := exists_owner_of_mem_chain listed absent
    exact absent (closed owner id (mem_chain_iff_comesWith.mp before).2 leads)

end Arena

namespace Draft

/-- A removal reports each id once, and exactly those under which a dialog stood and stands no
longer. -/
structure ReportsWhatGoes (draft : Draft) (id : DialogId) : Prop where
  once : (draft.remove id).1.Nodup
  gone : ∀ other, other ∈ (draft.remove id).1 ↔
    other ∈ draft.dialogs ∧ other ∉ (draft.remove id).2.dialogs

/-- The dialogs that go are the ones that are reported. -/
theorem goes_iff_reported (draft : Draft) (id other : DialogId) :
    other ∈ draft.dialogs ∧ other ∉ (draft.remove id).2.dialogs ↔
      other ∈ draft.dialogs ∧ other ∈ (draft.remove id).1 := by
  refine and_congr_right fun present => ?_
  have left : other ∈ (draft.remove id).2.dialogs ↔ other ∉ (draft.remove id).1 :=
    Arena.mem_clear.trans (and_iff_left present)
  rw [left, not_not]

/-- Each id is reported once, and a dialog goes exactly if it is reported. What is reported beyond
that is a missing dialog that a reported one owns. So the report is right exactly if all that comes
with the dialog is there, and always while the draft makes sense. -/
theorem reportsWhatGoes_iff (draft : Draft) (id : DialogId) :
    (draft.ReportsWhatGoes id ↔
      ∀ owner owned, draft.dialogs.ComesWith id owner →
        draft.dialogs.Leads owner (.dialog owned) → owned ∈ draft.dialogs) ∧
      (draft.remove id).1.Nodup ∧
      (∀ other ∈ draft.dialogs,
        other ∉ (draft.remove id).2.dialogs ↔ other ∈ (draft.remove id).1) ∧
      (∀ other ∈ (draft.remove id).1, other ∉ draft.dialogs →
        ∃ owner ∈ (draft.remove id).1, draft.dialogs.Leads owner (.dialog other)) ∧
      (draft.IsSound → draft.ReportsWhatGoes id) := by
  have once : (draft.remove id).1.Nodup := draft.dialogs.nodup_chain id
  have exactly : draft.ReportsWhatGoes id ↔ ∀ owner owned, draft.dialogs.ComesWith id owner →
      draft.dialogs.Leads owner (.dialog owned) → owned ∈ draft.dialogs := by
    rw [← Arena.chain_subset_keys_iff]
    constructor
    · intro reports other listed
      exact ((reports.gone other).mp listed).1
    · intro there
      refine ⟨once, fun other => ?_⟩
      rw [goes_iff_reported]
      exact (and_iff_right_of_imp (there other)).symm
  refine ⟨exactly, once, fun other present => ?_, fun other listed absent => ?_, fun sound => ?_⟩
  · exact and_congr_right_iff.mp (draft.goes_iff_reported id other) present
  · exact Arena.exists_owner_of_mem_chain listed absent
  · exact exactly.mpr fun owner owned _ leads => sound.story.linked leads rfl

/-- The first dialog of the tangle takes the second with it. The report names them both, and the
missing dialog that the first one owns. -/
theorem reportsWhatGoes_iff_in_tangle :
    (tangle.remove 0).1 = [0, 1, 7] ∧ 1 ∉ (tangle.remove 0).2.dialogs ∧
      (∃ owner ∈ (tangle.remove 0).1, tangle.dialogs.Leads owner (.dialog 7)) ∧
      ¬ tangle.ReportsWhatGoes 0 := by
  obtain ⟨exactly, -, goes, owned, -⟩ := reportsWhatGoes_iff tangle 0
  have reported : (tangle.remove 0).1 = [0, 1, 7] := by cbv
  have leads := owned 7 (by simp [reported]) (by decide)
  refine ⟨reported, (goes 1 (by decide)).mpr (by simp [reported]), leads, fun reports => ?_⟩
  obtain ⟨owner, listed, leads⟩ := leads
  have inChain : owner ∈ tangle.dialogs.chain 0 := listed
  have path := (Arena.mem_chain_iff_comesWith.mp inChain).2
  exact absurd (exactly.mp reports owner 7 path leads) (by decide)

/-- A root that owns a dialog that was never added. -/
def looseEnd : Draft := (default : Draft).performAll [.addRoot (owning [5])]

/-- The removal of the root reports the dialog that it owned, which was never there. -/
theorem not_reportsWhatGoes_looseEnd :
    Reached (fun draft _ => draft.dialogs.size < 2 ^ 31) looseEnd ∧
      looseEnd.dialogs.keys = [0] ∧ (looseEnd.remove 0).1 = [0, 5] ∧
      (looseEnd.remove 0).2.dialogs.keys = [] ∧ ¬ looseEnd.ReportsWhatGoes 0 := by
  have reported : (looseEnd.remove 0).1 = [0, 5] := by cbv
  refine ⟨.perform .blank (by decide), by cbv, reported, by cbv, fun reports => ?_⟩
  have stood := ((reports.gone 5).mp (by simp [reported])).1
  exact absurd stood (by decide)

end Draft

end Parley
