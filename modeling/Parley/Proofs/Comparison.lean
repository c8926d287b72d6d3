/-
# Tests of equality

A test of equality need not hold of a value and itself. `IsComparison` says of a test that it can be
turned round and chained, and of which values it holds when they are put against themselves. Both
are carried from the parts of a value to the whole, and from what stands in a collection to the
collection.

Lists and maps are compared by what is found in them, at every position or under every key. For
maps this is a theorem (`OrderedMap.isEqv_iff`). The test looks only from the first map into the
second, after their sizes. It comes to the same because keys that are all found among as many
others are all of them.
-/

import Mathlib
import Parley.OrderedMap

namespace Parley

/-- A test of equality that can be turned round and chained. A value passes it against itself
exactly if it is comparable. -/
structure IsComparison {α : Type} (eqv : α → α → Bool) (comparable : α → Prop) : Prop where
  symm : ∀ {a b}, eqv a b = true → eqv b a = true
  trans : ∀ {a b c}, eqv a b = true → eqv b c = true → eqv a c = true
  refl_iff : ∀ a, eqv a a = true ↔ comparable a

namespace IsComparison

variable {α β ι : Type} {eqv other : α → α → Bool} {comparable fits : α → Prop}

/-! ## Comparing by parts -/

theorem of_beq [BEq β] [LawfulBEq β] (part : α → β) :
    IsComparison (fun a b => part a == part b) fun _ => True where
  symm same := by rw [eq_of_beq same, beq_self_eq_true]
  trans first second := by rw [eq_of_beq first, second]
  refl_iff a := by simp

theorem comap (compares : IsComparison eqv comparable) (part : β → α) :
    IsComparison (fun a b => eqv (part a) (part b)) fun a => comparable (part a) where
  symm := compares.symm
  trans := compares.trans
  refl_iff a := compares.refl_iff (part a)

theorem and (compares : IsComparison eqv comparable) (alsoCompares : IsComparison other fits) :
    IsComparison (fun a b => eqv a b && other a b) fun a => comparable a ∧ fits a where
  symm same := by
    rw [Bool.and_eq_true] at same ⊢
    exact ⟨compares.symm same.1, alsoCompares.symm same.2⟩
  trans first second := by
    rw [Bool.and_eq_true] at first second ⊢
    exact ⟨compares.trans first.1 second.1, alsoCompares.trans first.2 second.2⟩
  refl_iff a := by rw [Bool.and_eq_true, compares.refl_iff, alsoCompares.refl_iff]

theorem congr (compares : IsComparison eqv comparable) (same : ∀ a, comparable a ↔ fits a) :
    IsComparison eqv fits where
  symm := compares.symm
  trans := compares.trans
  refl_iff a := (compares.refl_iff a).trans (same a)

/-! ## Comparing by places -/

/-- What is found in two collections at the same place passes the test, or nothing is found in
either. -/
abbrev Agree (eqv : α → α → Bool) : Option α → Option α → Prop :=
  Option.Rel fun a b => eqv a b = true

theorem agree_symm (compares : IsComparison eqv comparable) {o p : Option α}
    (agree : Agree eqv o p) : Agree eqv p o := by
  cases agree with
  | some same => exact .some (compares.symm same)
  | none => exact .none

theorem agree_trans (compares : IsComparison eqv comparable) {o p q : Option α}
    (first : Agree eqv o p) (second : Agree eqv p q) : Agree eqv o q := by
  cases first with
  | some same =>
      cases second with
      | some same' => exact .some (compares.trans same same')
  | none => exact second

theorem agree_self_iff (compares : IsComparison eqv comparable) {o : Option α} :
    Agree eqv o o ↔ ∀ a ∈ o, comparable a := by
  cases o with
  | none => simp
  | some a => simp [compares.refl_iff]

/-- Collections are compared by what is found in them at every place. -/
theorem lookups {look : β → ι → Option α} {test : β → β → Bool}
    (compares : IsComparison eqv comparable)
    (looks : ∀ c d, test c d = true ↔ ∀ i, Agree eqv (look c i) (look d i)) :
    IsComparison test fun c => ∀ i, ∀ a ∈ look c i, comparable a where
  symm {c d} same := (looks d c).mpr fun i => compares.agree_symm ((looks c d).mp same i)
  trans {c d e} first second := (looks c e).mpr fun i =>
    compares.agree_trans ((looks c d).mp first i) ((looks d e).mp second i)
  refl_iff c := (looks c c).trans (forall_congr' fun _ => compares.agree_self_iff)

end IsComparison

/-! ## Lists and maps -/

open IsComparison (Agree)

/-- Two lists are equal exactly if the same is found in both at every position. -/
theorem isEqv_iff_getElem? {α : Type} {eqv : α → α → Bool} (l m : List α) :
    l.isEqv m eqv = true ↔ ∀ i : Nat, Agree eqv l[i]? m[i]? := by
  induction l generalizing m with
  | nil =>
      cases m with
      | nil => exact iff_of_true rfl fun _ => .none
      | cons b m => exact iff_of_false nofun fun same => nomatch same 0
  | cons a l ih =>
      cases m with
      | nil => exact iff_of_false nofun fun same => nomatch same 0
      | cons b m =>
          rw [List.isEqv_cons_cons, Bool.and_eq_true, ih]
          constructor
          · rintro ⟨first, rest⟩ (_ | i)
            · exact .some first
            · exact rest i
          · intro same
            refine ⟨?_, fun i => same (i + 1)⟩
            cases same 0 with
            | some first => exact first

namespace OrderedMap

variable {κ α : Type} {m n : OrderedMap κ α}

/-- Keys that are all found among as many others are all of them. -/
theorem mem_of_size_eq (size : m.size = n.size) (found : ∀ k ∈ m, k ∈ n) {k : κ}
    (listed : k ∈ n) : k ∈ m := by
  have few : n.keys.length ≤ m.keys.length := by
    rw [keys, keys, List.length_map, List.length_map]
    exact size.ge
  exact ((List.subperm_of_subset m.nodup found).perm_of_length_le few).mem_iff.mpr listed

theorem size_eq_of_mem_iff (same : ∀ k, k ∈ m ↔ k ∈ n) : m.size = n.size := by
  have keys := ((List.perm_ext_iff_of_nodup m.nodup n.nodup).mpr same).length_eq
  rwa [List.length_map, List.length_map] at keys

variable [DecidableEq κ] {eqv : α → α → Bool}

/-- The test looks from the first map into the second. -/
theorem isEqv_iff_size_eq_and_found :
    m.isEqv eqv n = true ↔ m.size = n.size ∧
      ∀ k a, m.get? k = some a → ∃ b, n.get? k = some b ∧ eqv a b = true := by
  simp [isEqv, get?_eq_some_iff, Option.any_eq_true]

/-- Two maps are equal exactly if the same is found in both under every key. -/
theorem isEqv_iff (m n : OrderedMap κ α) :
    m.isEqv eqv n = true ↔ ∀ k, Agree eqv (m.get? k) (n.get? k) := by
  rw [isEqv_iff_size_eq_and_found]
  constructor
  · rintro ⟨size, found⟩ k
    cases here : m.get? k with
    | some a =>
        obtain ⟨b, there, same⟩ := found k a here
        rw [there]
        exact .some same
    | none =>
        -- Nothing was looked up from the second map in the first. That is left to counting.
        have known : ∀ k ∈ m, k ∈ n := by
          intro k listed
          obtain ⟨a, here⟩ := mem_iff_exists_get?.mp listed
          obtain ⟨b, there, -⟩ := found k a here
          exact mem_of_get?_eq_some there
        have absent : k ∉ n := fun listed =>
          get?_eq_none_iff.mp here (mem_of_size_eq size known listed)
        rw [get?_eq_none_iff.mpr absent]
        exact .none
  · intro agree
    constructor
    · apply size_eq_of_mem_iff
      intro k
      rw [← not_iff_not, ← get?_eq_none_iff, ← get?_eq_none_iff]
      have there := agree k
      revert there
      cases m.get? k <;> cases n.get? k <;> simp
    · intro k a here
      have there := agree k
      rw [here] at there
      revert there
      cases n.get? k <;> simp

end OrderedMap

namespace IsComparison

variable {α κ : Type} [DecidableEq κ] {eqv : α → α → Bool} {comparable : α → Prop}

theorem list (compares : IsComparison eqv comparable) :
    IsComparison (fun l m : List α => l.isEqv m eqv) fun l => ∀ a ∈ l, comparable a :=
  (compares.lookups isEqv_iff_getElem?).congr fun l => by
    simp only [List.mem_iff_getElem?, forall_exists_index, Option.mem_def]
    exact forall_comm

theorem orderedMap (compares : IsComparison eqv comparable) :
    IsComparison (fun m n : OrderedMap κ α => m.isEqv eqv n) fun m =>
      ∀ a ∈ m.values, comparable a :=
  (compares.lookups OrderedMap.isEqv_iff).congr fun m => by
    simp only [OrderedMap.mem_values_iff, forall_exists_index, Option.mem_def]
    exact forall_comm

end IsComparison

end Parley
