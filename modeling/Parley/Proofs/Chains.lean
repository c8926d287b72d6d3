/-
# Chains in reading order

A reader who follows the first option to its end before turning to the second comes to the
dialogs of a story in a certain order. `Arena.visit` tells it by recursion: a dialog is met,
then all that it owns is visited, one owned dialog after the other, and whatever was met
before is passed over. A walk keeps its pending dialogs on a stack instead, where one dialog
may wait several times. Both meet the same dialogs in the same order, and so a chain is its
root followed by what the root reaches, each dialog once.

Nothing is asked of the arena. It may own in circles, and what it owns may be missing.
-/

import Mathlib
import Parley.Proofs.Ownership

namespace Parley

open Relation

namespace Arena

/-! ## Visiting by recursion -/

theorem countOutside_append_le (arena : Arena) (ids seen : List DialogId) :
    arena.countOutside (ids ++ seen) ≤ arena.countOutside seen := by
  induction ids with
  | nil => exact Nat.le_refl _
  | cons id rest ih => exact Nat.le_trans (arena.countOutside_cons_le id (rest ++ seen)) ih

/-- The ids met when dialogs are visited one after the other. A dialog that was not seen is
met, and everything that it owns is visited before the next dialog. A missing dialog is met
like any other and owns nothing. -/
def visit (arena : Arena) (seen : List DialogId) : List DialogId → List DialogId
  | [] => []
  | id :: rest =>
    if id ∈ seen then visit arena seen rest
    else
      let below := visit arena (id :: seen) (arena.ownedIds id)
      id :: below ++ visit arena (below ++ id :: seen) rest
termination_by pending => (arena.countOutside seen, pending.length)
decreasing_by
  · exact Prod.Lex.right _ (by simp)
  · rcases enter_cases arena ‹id ∉ seen› with less | ⟨same, nothing⟩
    · exact Prod.Lex.left _ _ less
    · rw [same, nothing]
      exact Prod.Lex.right _ (by simp)
  · have fewer : arena.countOutside (below ++ id :: seen) ≤ arena.countOutside seen :=
      Nat.le_trans (arena.countOutside_append_le below (id :: seen))
        (arena.countOutside_cons_le id seen)
    rcases Nat.lt_or_eq_of_le fewer with less | same
    · exact Prod.Lex.left _ _ less
    · rw [same]
      exact Prod.Lex.right _ (by simp)

/-- What was seen counts as a set: neither its order nor repetitions in it matter. -/
theorem walk_congr_seen {arena : Arena} {seen others pending : List DialogId}
    (same : ∀ id, id ∈ seen ↔ id ∈ others) :
    arena.walk seen pending = arena.walk others pending := by
  fun_induction walk arena seen pending generalizing others with
  | case1 => rw [walk]
  | case2 seen id rest old ih => rw [walk, if_pos ((same id).mp old), ih same]
  | case3 seen id rest new ih =>
      rw [walk, if_neg (mt (same id).mpr new)]
      congr 1
      refine ih fun other => ?_
      rw [List.mem_cons, List.mem_cons, same other]

/-- The stack of a walk splits: what waits on top is visited to its end before anything below
it is looked at, and then counts as seen. -/
theorem walk_append (arena : Arena) (seen pending rest : List DialogId) :
    arena.walk seen (pending ++ rest) =
      arena.visit seen pending ++ arena.walk (arena.visit seen pending ++ seen) rest := by
  fun_induction visit arena seen pending generalizing rest with
  | case1 => rfl
  | case2 seen id pending old ih => rw [List.cons_append, walk, if_pos old, ih]
  | case3 seen id pending new below inner outer =>
      have same (other : DialogId) :
          other ∈ arena.visit (below ++ id :: seen) pending ++ (below ++ id :: seen) ↔
            other ∈ id :: below ++ arena.visit (below ++ id :: seen) pending ++ seen := by
        simp only [List.mem_append, List.mem_cons]
        tauto
      rw [List.cons_append, walk, if_neg new, inner, outer, walk_congr_seen same]
      simp [below]

/-- A walk meets what a visit meets, in the same order. -/
theorem walk_eq_visit (arena : Arena) (seen pending : List DialogId) :
    arena.walk seen pending = arena.visit seen pending := by
  have split := arena.walk_append seen pending []
  rwa [List.append_nil, walk, List.append_nil] at split

/-! ## Chains -/

theorem not_mem_of_mem_walk {arena : Arena} {seen pending : List DialogId} {id : DialogId}
    (met : id ∈ arena.walk seen pending) : id ∉ seen := by
  obtain ⟨start, -, outside, path⟩ := mem_walk_iff.mp met
  cases path with
  | refl => exact outside
  | tail _ step => exact step.2

/-- A walk meets nothing twice. -/
theorem nodup_walk (arena : Arena) (seen pending : List DialogId) :
    (arena.walk seen pending).Nodup := by
  fun_induction walk arena seen pending with
  | case1 => exact List.nodup_nil
  | case2 seen id rest old ih => exact ih
  | case3 seen id rest new ih =>
      have unmet : id ∉ arena.walk (id :: seen) (arena.ownedIds id ++ rest) :=
        fun met => not_mem_of_mem_walk met List.mem_cons_self
      exact List.nodup_cons.mpr ⟨unmet, ih⟩

theorem head?_visit (arena : Arena) (root : DialogId) :
    (arena.visit [] [root]).head? = some root := by
  rw [visit, if_neg List.not_mem_nil]
  rfl

/-- A missing root has no chain. The chain of any other is what a reader meets who visits it:
the root first, no dialog twice, and exactly those that options lead to from there when no
redirection is followed. -/
theorem chain_eq_visit (arena : Arena) (root : DialogId) :
    (root ∉ arena → arena.chain root = []) ∧
      (root ∈ arena →
        arena.chain root = arena.visit [] [root] ∧
          (arena.chain root).head? = some root ∧
          (arena.chain root).Nodup ∧
          ∀ id, id ∈ arena.chain root ↔
            ReflTransGen (fun owner owned => arena.Leads owner (.dialog owned)) root id) ∧
      ∀ g : Graph, g.dialogs = arena → g.chain root = arena.chain root := by
  refine ⟨fun absent => if_neg absent, fun present => ?_, ?_⟩
  · have walked : arena.chain root = arena.walk [] [root] := if_pos present
    have visited : arena.chain root = arena.visit [] [root] := by rw [walked, walk_eq_visit]
    refine ⟨visited, ?_, ?_, fun id => ?_⟩
    · rw [visited, head?_visit]
    · rw [walked]
      exact arena.nodup_walk [] [root]
    · have leads : arena.Owns = fun owner owned => arena.Leads owner (.dialog owned) := by
        funext owner owned
        exact propext owns_iff_leads
      rw [mem_chain_iff, Reaches, leads]
      exact and_iff_right present
  · rintro g rfl
    rfl

/-- Three dialogs that own in circles. The first option of the first dialog leads to the
third, which the second owns as well, and the second owns a dialog that is missing. -/
def circle : Arena where
  entries :=
    [(0, { (default : Dialog) with
        options :=
          [{ (default : DialogOption) with destination := .dialog 2 },
            { (default : DialogOption) with destination := .dialog 1 }] }),
      (1, { (default : Dialog) with
        id := 1
        options :=
          [{ (default : DialogOption) with destination := .dialog 5 },
            { (default : DialogOption) with destination := .redirect 3 },
            { (default : DialogOption) with destination := .dialog 2 }] }),
      (2, { (default : Dialog) with
        id := 2
        options := [{ (default : DialogOption) with destination := .dialog 0 }] })]
  nodup := by decide

/-- In a circle the chain comes round to every dialog once. -/
theorem chain_eq_visit_circle :
    circle.chain 3 = [] ∧ circle.chain 0 = [0, 2, 1, 5] ∧ circle.visit [] [0] = [0, 2, 1, 5] ∧
      (circle.chain 0).Nodup := by
  obtain ⟨absent, present, -⟩ := chain_eq_visit circle 3
  obtain ⟨-, present', -⟩ := chain_eq_visit circle 0
  obtain ⟨same, -, nodup, -⟩ := present' (by decide)
  have visited : circle.visit [] [0] = [0, 2, 1, 5] := by cbv
  exact ⟨absent (by decide), same.trans visited, visited, nodup⟩

end Arena

end Parley
