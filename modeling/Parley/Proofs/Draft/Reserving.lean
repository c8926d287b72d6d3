/-
# What a pool has given away

A pool hands out the lowest free id, accepts an id that is asked for, and takes ids back. Over any
history of such calls its size is the number of ids that it began with or gave away and that did
not come back, and what has not come back is not given away a second time.

`IdPool.KeepsAccount` says so of a history. All of it follows from what one call does
(`mem_perform_iff`) and from what it can give (`gives?_fresh`), by induction on the history.

Handing out the lowest free id asks for fewer than `2 ^ 31` reserved ids, since there are no more
ids from zero up. Then counting up from zero comes to a free id before it runs out of ids
(`IdPool.CountsTo`), and otherwise it does not. The other calls may be made of a full pool too.
-/

import Mathlib
import Parley.Proofs.Draft.Holding

namespace Parley.IdPool

/-! ## Histories -/

/-- What a pool is asked to do. -/
inductive Call where
  /-- To hand out the lowest free id. -/
  | reserve
  /-- To accept this id. -/
  | reserveExact (id : DialogId)
  /-- To take this id back. -/
  | release (id : DialogId)
deriving DecidableEq

/-- The id that a call is given, handed out or accepted. -/
def gives? (pool : IdPool) : Call → Option DialogId
  | .reserve => some pool.reserve.1
  | .reserveExact id => if (pool.reserveExact id).1 then some id else none
  | .release _ => none

/-- The pool after a call. -/
def perform (pool : IdPool) : Call → IdPool
  | .reserve => pool.reserve.2
  | .reserveExact id => (pool.reserveExact id).2
  | .release id => (pool.release id).2

/-- The pool after a history of calls. -/
def performAll (pool : IdPool) (calls : List Call) : IdPool := calls.foldl perform pool

/-- Whenever the lowest free id is asked for, fewer than `2 ^ 31` ids are reserved. -/
def HasRoom (pool : IdPool) : List Call → Prop
  | [] => True
  | call :: rest => (call = .reserve → pool.size < 2 ^ 31) ∧ (pool.perform call).HasRoom rest

instance decidableHasRoom (pool : IdPool) : (calls : List Call) → Decidable (pool.HasRoom calls)
  | [] => isTrue trivial
  | call :: rest =>
    have := decidableHasRoom (pool.perform call) rest
    inferInstanceAs (Decidable ((call = .reserve → pool.size < 2 ^ 31) ∧
      (pool.perform call).HasRoom rest))

/-- What a pool begins with: nothing, or the ids of the dialogs of a story. -/
inductive BeginsWith : IdPool → (DialogId → Prop) → Prop
  | nothing : BeginsWith ∅ fun _ => False
  | story {dialogs roots g} (made : Graph.ofDialogs dialogs roots = .ok g) :
      BeginsWith (ofGraph g) fun id => ∃ d ∈ dialogs, d.id = id

/-- An id is out after a history: the pool began with it, or a call was given it, and it did not
come back since. -/
def IsOut (begun : DialogId → Prop) (pool : IdPool) (calls : List Call) (id : DialogId) : Prop :=
  (begun id ∧ .release id ∉ calls) ∨
    ∃ before call later, calls = before ++ call :: later ∧
      (pool.performAll before).gives? call = some id ∧ .release id ∉ later

/-- Counting up from one id while ids are reserved comes to another that is not, and on the way
never to the end of the ids. -/
inductive CountsTo (pool : IdPool) : DialogId → DialogId → Prop
  | here {id} (free : id ∉ pool) : CountsTo pool id id
  | next {id found} (reserved : id ∈ pool) (inside : id < Int32.maxValue)
      (later : CountsTo pool (id + 1) found) : CountsTo pool id found

/-- A pool keeps account over a history that began with some ids. -/
structure KeepsAccount (begun : DialogId → Prop) (pool : IdPool) (calls : List Call) : Prop where
  nonneg : ∀ id ∈ pool.performAll calls, 0 ≤ id
  /-- Counting up from zero ends while the pool has room, and only then. -/
  ends : (∃ found, (pool.performAll calls).CountsTo 0 found) ↔
    (pool.performAll calls).size < 2 ^ 31
  /-- It ends at the id that is handed out, and this is the lowest that is free. -/
  lowest : (pool.performAll calls).size < 2 ^ 31 →
    (pool.performAll calls).CountsTo 0 (pool.performAll calls).reserve.1 ∧
      Draft.IsLowestFree (· ∈ pool.performAll calls) (pool.performAll calls).reserve.1
  /-- What is given twice came back in between. -/
  once : ∀ {first call between again later id},
    calls = first ++ call :: between ++ again :: later →
      (pool.performAll first).gives? call = some id →
        (pool.performAll (first ++ call :: between)).gives? again = some id →
          .release id ∈ between
  reserved : ∀ id, id ∈ pool.performAll calls ↔ IsOut begun pool calls id
  size : (pool.performAll calls).size = {id | IsOut begun pool calls id}.ncard

/-! ## One call -/

variable {pool : IdPool} {begun : DialogId → Prop} {calls : List Call} {call : Call}
  {id : DialogId}

/-- After a call those ids are reserved that it was given and those that were before, but for one
that came back. -/
theorem mem_perform_iff :
    id ∈ pool.perform call ↔ pool.gives? call = some id ∨ id ∈ pool ∧ call ≠ .release id := by
  cases call with
  | reserve => simp [perform, gives?, reserve, eq_comm]
  | reserveExact asked =>
      by_cases fits : 0 ≤ asked ∧ asked ∉ pool
      · simp [perform, gives?, reserveExact, fits, eq_comm]
      · simp [perform, gives?, reserveExact, fits]
  | release back => simp [perform, gives?, and_comm, eq_comm]

/-- A call is given an id from zero up that was free. -/
theorem gives?_fresh (room : call = .reserve → pool.size < 2 ^ 31)
    (given : pool.gives? call = some id) : 0 ≤ id ∧ id ∉ pool := by
  cases call with
  | reserve =>
      obtain ⟨nonneg, free, -⟩ := lowestFree_spec (room rfl)
      cases given
      exact ⟨nonneg, free⟩
  | reserveExact asked =>
      unfold gives? reserveExact at given
      by_cases fits : 0 ≤ asked ∧ asked ∉ pool
      · simp only [if_pos fits, if_true, Option.some.injEq] at given
        exact given ▸ fits
      · simp [if_neg fits] at given
  | release back => cases given

theorem nonneg_perform (nonneg : ∀ id ∈ pool, 0 ≤ id)
    (room : call = .reserve → pool.size < 2 ^ 31) : ∀ id ∈ pool.perform call, 0 ≤ id := by
  intro id reserved
  rcases mem_perform_iff.mp reserved with given | ⟨before, -⟩
  · exact (gives?_fresh room given).1
  · exact nonneg id before

/-! ## The lowest free id -/

theorem toInt_add_one (inside : id < Int32.maxValue) : (id + 1).toInt = id.toInt + 1 := by
  have upper : id.toInt < 2147483647 := Int32.lt_iff_toInt_lt.mp inside
  have lower := id.le_toInt
  rw [Int32.toInt_add]
  have one : (1 : Int32).toInt = 1 := rfl
  rw [one]
  apply Int.bmod_eq_of_le <;> omega

/-- Counting comes to a free id from any id below it, if all ids between them are reserved. -/
theorem countsTo_of_reserved {found : DialogId} (free : found ∉ pool) (distance : Nat)
    (apart : id.toInt + distance = found.toInt)
    (reserved : ∀ other, id ≤ other → other < found → other ∈ pool) : pool.CountsTo id found := by
  induction distance generalizing id with
  | zero =>
      have same : id = found := Int32.toInt_inj.mp (by simpa using apart)
      exact same ▸ .here (same ▸ free)
  | succ distance ih =>
      have below : id < found := Int32.lt_iff_toInt_lt.mpr (by omega)
      have inside : id < Int32.maxValue := by
        have most := found.toInt_lt
        refine Int32.lt_iff_toInt_lt.mpr ?_
        have last : Int32.maxValue.toInt = 2147483647 := rfl
        omega
      have moved := toInt_add_one inside
      refine .next (reserved id (Int32.le_refl id) below) inside (ih (by omega) ?_)
      intro other from' under
      refine reserved other ?_ under
      rw [Int32.le_iff_toInt_le] at from' ⊢
      omega

/-- In a pool with room, counting up from zero ends at the id that it hands out. -/
theorem countsTo_lowestFree (room : pool.size < 2 ^ 31) : pool.CountsTo 0 pool.lowestFree := by
  obtain ⟨nonneg, free, lowest⟩ := lowestFree_spec room
  have up : 0 ≤ pool.lowestFree.toInt := Int32.le_iff_toInt_le.mp nonneg
  refine countsTo_of_reserved free pool.lowestFree.toInt.toNat ?_ lowest
  have zero : (0 : Int32).toInt = 0 := rfl
  omega

theorem CountsTo.spec {found : DialogId} (counts : pool.CountsTo id found) :
    id.toInt ≤ found.toInt ∧ found ∉ pool := by
  induction counts with
  | here free => exact ⟨le_rfl, free⟩
  | next reserved inside later ih =>
      have moved := toInt_add_one inside
      exact ⟨by omega, ih.2⟩

/-- There are `2 ^ 31` ids from zero up, so a pool of such ids that lacks one of them has room. -/
theorem size_lt_of_not_mem {found : DialogId} (nonneg : ∀ id ∈ pool, 0 ≤ id) (up : 0 ≤ found)
    (free : found ∉ pool) : pool.size < 2 ^ 31 := by
  have natural : ∀ id ∈ found :: pool.ids, 0 ≤ id := by
    rintro id (_ | ⟨_, listed⟩)
    · exact up
    · exact nonneg id listed
  have distinct : ((found :: pool.ids).map Int32.toNatClampNeg).Nodup := by
    refine (List.nodup_cons.mpr ⟨free, pool.nodup⟩).map_on fun a listed b listed' same => ?_
    rw [← Int32.ofNat_toNatClampNeg a (natural a listed),
      ← Int32.ofNat_toNatClampNeg b (natural b listed'), same]
  -- With the free id the pool would still fit below `2 ^ 31`, so it is one id short of that.
  have small : (found :: pool.ids).map Int32.toNatClampNeg ⊆ List.range (2 ^ 31) := by
    intro n listed
    obtain ⟨id, -, rfl⟩ := List.mem_map.mp listed
    have := id.toInt_lt
    rw [List.mem_range]
    unfold Int32.toNatClampNeg
    omega
  have few := (List.subperm_of_subset distinct small).length_le
  rwa [List.length_map, List.length_cons, List.length_range] at few

/-- Counting up from zero ends exactly while the pool has room. -/
theorem exists_countsTo_iff (nonneg : ∀ id ∈ pool, 0 ≤ id) :
    (∃ found, pool.CountsTo 0 found) ↔ pool.size < 2 ^ 31 := by
  constructor
  · rintro ⟨found, counts⟩
    obtain ⟨above, free⟩ := counts.spec
    exact size_lt_of_not_mem nonneg (Int32.le_iff_toInt_le.mpr above) free
  · intro room
    exact ⟨_, countsTo_lowestFree room⟩

/-! ## Histories of calls -/

@[simp] theorem performAll_nil (pool : IdPool) : pool.performAll [] = pool := rfl

theorem performAll_append (pool : IdPool) (calls more : List Call) :
    pool.performAll (calls ++ more) = (pool.performAll calls).performAll more :=
  List.foldl_append

theorem performAll_concat (pool : IdPool) (calls : List Call) (call : Call) :
    pool.performAll (calls ++ [call]) = (pool.performAll calls).perform call :=
  performAll_append pool calls [call]

theorem hasRoom_append {more : List Call} :
    pool.HasRoom (calls ++ more) ↔ pool.HasRoom calls ∧ (pool.performAll calls).HasRoom more := by
  induction calls generalizing pool with
  | nil => simp [HasRoom]
  | cons call rest ih =>
      rw [List.cons_append, HasRoom, HasRoom, ih, and_assoc]
      rfl

theorem nonneg_performAll (nonneg : ∀ id ∈ pool, 0 ≤ id) (room : pool.HasRoom calls) :
    ∀ id ∈ pool.performAll calls, 0 ≤ id := by
  induction calls generalizing pool with
  | nil => exact nonneg
  | cons call rest ih => exact ih (nonneg_perform nonneg room.1) room.2

/-- One call more gives one id more away or lets one come back. -/
theorem isOut_concat_iff :
    IsOut begun pool (calls ++ [call]) id ↔
      (pool.performAll calls).gives? call = some id ∨
        IsOut begun pool calls id ∧ call ≠ .release id := by
  constructor
  · rintro (⟨first, kept⟩ | ⟨before, given, later, split, gives, kept⟩)
    · rw [List.mem_append, List.mem_singleton, not_or] at kept
      exact Or.inr ⟨Or.inl ⟨first, kept.1⟩, Ne.symm kept.2⟩
    · -- The call that was given the id is the last one, or the last one came after it.
      rcases later.eq_nil_or_concat with rfl | ⟨most, last, rfl⟩
      · obtain ⟨rfl, same⟩ := List.append_inj' split rfl
        cases same
        exact Or.inl gives
      · rw [List.concat_eq_append, ← List.cons_append, ← List.append_assoc] at split
        obtain ⟨rfl, same⟩ := List.append_inj' split rfl
        cases same
        rw [List.concat_eq_append, List.mem_append, List.mem_singleton, not_or] at kept
        exact Or.inr ⟨Or.inr ⟨before, given, most, rfl, gives, kept.1⟩, Ne.symm kept.2⟩
  · rintro (gives | ⟨⟨first, kept⟩ | ⟨before, given, later, rfl, gives, kept⟩, other⟩)
    · exact Or.inr ⟨calls, call, [], rfl, gives, List.not_mem_nil⟩
    · exact Or.inl ⟨first, by simp [kept, Ne.symm other]⟩
    · exact Or.inr ⟨before, given, later ++ [call], by simp, gives,
        by simp [kept, Ne.symm other]⟩

/-- The ids in use are those that are out. -/
theorem mem_performAll_iff (begins : ∀ id, id ∈ pool ↔ begun id) :
    id ∈ pool.performAll calls ↔ IsOut begun pool calls id := by
  induction calls using List.reverseRecOn with
  | nil => simp [IsOut, begins]
  | append_singleton calls call ih =>
      rw [performAll_concat, mem_perform_iff, isOut_concat_iff, ih]

/-- What is given twice came back in between. -/
theorem release_mem_of_gives?_twice {first between later : List Call} {again : Call}
    (room : pool.HasRoom (first ++ call :: between ++ again :: later))
    (gives : (pool.performAll first).gives? call = some id)
    (givesAgain : (pool.performAll (first ++ call :: between)).gives? again = some id) :
    .release id ∈ between := by
  by_contra kept
  have out : IsOut (· ∈ pool) pool (first ++ call :: between) id :=
    Or.inr ⟨first, call, between, rfl, gives, kept⟩
  exact (gives?_fresh (hasRoom_append.mp room).2.1 givesAgain).2
    ((mem_performAll_iff fun _ => Iff.rfl).mpr out)

theorem size_eq_ncard (pool : IdPool) : pool.size = {id | id ∈ pool}.ncard := by
  have listed : {id | id ∈ pool} = (pool.ids.toFinset : Set DialogId) := by
    ext id
    simp [mem_iff]
  rw [listed, Set.ncard_coe_finset, List.toFinset_card_of_nodup pool.nodup, size]

namespace BeginsWith

theorem mem_iff (begins : BeginsWith pool begun) : id ∈ pool ↔ begun id := by
  cases begins with
  | nothing => simp
  | story made =>
      obtain ⟨lists, -, -⟩ := Graph.ofDialogs_eq_ok_iff.mp made
      rw [mem_ofGraph, Graph.toList, lists.values_eq]

theorem nonneg (begins : BeginsWith pool begun) (reserved : id ∈ pool) : 0 ≤ id := by
  cases begins with
  | nothing => exact absurd reserved (not_mem_empty id)
  | story made =>
      obtain ⟨d, listed, rfl⟩ := (BeginsWith.story made).mem_iff.mp reserved
      exact (Graph.isStory_of_ofDialogs made).nonneg d listed

end BeginsWith

/-- A pool that begins with nothing or with the ids of a story keeps account over every history in
which it has room whenever it is to hand out the lowest free id. -/
theorem keepsAccount_of_beginsWith (begins : BeginsWith pool begun) (room : pool.HasRoom calls) :
    KeepsAccount begun pool calls where
  nonneg := nonneg_performAll (fun _ => begins.nonneg) room
  ends := exists_countsTo_iff (nonneg_performAll (fun _ => begins.nonneg) room)
  lowest few := by
    obtain ⟨nonneg, free, lowest⟩ := lowestFree_spec few
    exact ⟨countsTo_lowestFree few, nonneg, free, lowest⟩
  once := by
    rintro first call between again later id rfl
    exact release_mem_of_gives?_twice room
  reserved _ := mem_performAll_iff fun _ => begins.mem_iff
  size := by
    rw [size_eq_ncard]
    congr 1
    ext id
    exact mem_performAll_iff fun _ => begins.mem_iff

/-- A story with a dialog missing between its two. -/
def gap : Graph where
  dialogs :=
    { entries := [(0, default), (2, { (default : Dialog) with id := 2 })]
      nodup := by decide }
  roots := [2]

/-- The gap is closed first. The last dialog gives its id back and the id is handed out again, the
id that was asked for stays where it is, and the next free one is below it. -/
theorem keepsAccount_gap :
    let calls : List Call := [.reserveExact 5, .reserve, .release 2, .reserve, .reserve]
    Graph.ofDialogs gap.toList [2] = .ok gap ∧ (ofGraph gap).HasRoom calls ∧
      ((ofGraph gap).performAll calls).ids = [3, 2, 1, 5, 0] ∧
      ((ofGraph gap).performAll calls).reserve.1 = 4 ∧
      KeepsAccount (fun id => ∃ d ∈ gap.toList, d.id = id) (ofGraph gap) calls := by
  intro calls
  have made : Graph.ofDialogs gap.toList [2] = .ok gap := by cbv
  have room : (ofGraph gap).HasRoom calls := by decide
  exact ⟨made, room, by decide, by decide, keepsAccount_of_beginsWith (.story made) room⟩

end Parley.IdPool
