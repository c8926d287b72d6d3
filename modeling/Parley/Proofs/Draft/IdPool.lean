/-
# What a pool hands out

A pool with room left hands out an id that nothing else has: it is not reserved, it is not
one of the ids kept free, and every id below it is taken. There is always such an id while
fewer ids are reserved than there are positive numbers to write, because one more candidate
than there are reserved ids cannot all be reserved.
-/

import Mathlib.Algebra.Group.Nat.Defs
import Mathlib.Data.List.Nodup
import Mathlib.Data.List.Perm.Subperm
import Parley.Draft.IdPool

namespace Parley.IdPool

theorem mem_iff {pool : IdPool} {id : DialogId} : id ∈ pool ↔ id ∈ pool.ids := Iff.rfl

@[simp] theorem not_mem_empty (id : DialogId) : id ∉ (∅ : IdPool) := List.not_mem_nil

@[simp] theorem mem_insert {pool : IdPool} {id other : DialogId} :
    other ∈ pool.insert id ↔ other = id ∨ other ∈ pool := by
  unfold insert
  split
  · rename_i reserved
    constructor
    · exact Or.inr
    · rintro (rfl | known)
      · exact reserved
      · exact known
  · simp [mem_iff]

@[simp] theorem mem_release {pool : IdPool} {id other : DialogId} :
    other ∈ (pool.release id).2 ↔ other ≠ id ∧ other ∈ pool := by
  simp [release, mem_iff, pool.nodup.mem_erase_iff]

@[simp] theorem mem_releaseAll {pool : IdPool} {ids : List DialogId} {other : DialogId} :
    other ∈ pool.releaseAll ids ↔ other ∉ ids ∧ other ∈ pool := by
  unfold releaseAll
  induction ids generalizing pool with
  | nil => simp
  | cons id rest ih =>
      rw [List.foldl_cons, ih, mem_release, List.mem_cons, not_or, and_left_comm, and_assoc]

theorem mem_foldl_insert {pool : IdPool} {dialogs : List Dialog} {id : DialogId} :
    id ∈ dialogs.foldl (fun pool d => pool.insert d.id) pool ↔
      id ∈ pool ∨ ∃ d ∈ dialogs, d.id = id := by
  induction dialogs generalizing pool with
  | nil => simp
  | cons d rest ih =>
      rw [List.foldl_cons, ih, mem_insert]
      simp only [List.exists_mem_cons_iff, eq_comm (a := id), or_assoc, or_left_comm]

theorem mem_ofGraph {g : Graph} {id : DialogId} :
    id ∈ ofGraph g ↔ ∃ d ∈ g.toList, d.id = id := by
  simp [ofGraph, mem_foldl_insert]

/-- Among one more candidates than there are reserved ids, one is free. -/
theorem exists_free {pool : IdPool} (room : pool.size < 2 ^ 31) :
    ∃ n, n < pool.size + 1 ∧ Int32.ofNat n ∉ pool := by
  by_contra taken
  push Not at taken
  let candidates := (List.range (pool.size + 1)).map Int32.ofNat
  have distinct : candidates.Nodup := by
    refine List.Nodup.map_on (fun a listed b listed' same => ?_) List.nodup_range
    rw [List.mem_range] at listed listed'
    have small : a < 2 ^ 31 := by omega
    have small' : b < 2 ^ 31 := by omega
    rw [← Int32.toInt_inj, Int32.toInt_ofNat_of_lt small, Int32.toInt_ofNat_of_lt small'] at same
    exact Int.ofNat.inj same
  have reserved : candidates ⊆ pool.ids := by
    intro id listed
    obtain ⟨n, low, rfl⟩ := List.mem_map.mp listed
    exact taken n (List.mem_range.mp low)
  have few := (List.subperm_of_subset distinct reserved).length_le
  simp only [candidates, List.length_map, List.length_range, size] at few
  omega

/-- A pool with room hands out the lowest id that is not reserved. -/
theorem lowestFree_spec {pool : IdPool} (room : pool.size < 2 ^ 31) :
    0 ≤ pool.lowestFree ∧ pool.lowestFree ∉ pool ∧
      ∀ id, 0 ≤ id → id < pool.lowestFree → id ∈ pool := by
  obtain ⟨free, found⟩ : ∃ free, (List.range (pool.size + 1)).find?
      (fun n => Int32.ofNat n ∉ pool) = some free := by
    obtain ⟨n, low, free⟩ := exists_free room
    rw [← Option.isSome_iff_exists, List.find?_isSome]
    exact ⟨n, List.mem_range.mpr low, by simpa using free⟩
  have handed : pool.lowestFree = Int32.ofNat free := by
    rw [lowestFree, found, Option.getD_some]
  obtain ⟨absent, low, first⟩ := List.find?_range_eq_some.mp found
  have small : free < 2 ^ 31 := by
    have := List.mem_range.mp low
    omega
  rw [handed]
  refine ⟨Int32.zero_le_ofNat_of_lt small, by simpa using absent, fun id nonneg below => ?_⟩
  rw [← Int32.ofNat_toNatClampNeg id nonneg] at below ⊢
  have written : id.toNatClampNeg < 2 ^ 31 := by
    have := id.toInt_lt
    unfold Int32.toNatClampNeg
    omega
  rw [Int32.ofNat_lt_iff_lt written small] at below
  simpa using first _ below

end Parley.IdPool
