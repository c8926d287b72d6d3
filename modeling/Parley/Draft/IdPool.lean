/-
# Id pools

While a story is being written, every new dialog needs an id that no other dialog has.
A pool keeps the ids in use. It hands out the lowest free one, so the ids of removed
dialogs are used again and the ids of a story stay small.
-/

import Parley.Graph.Basic

namespace Parley

/-- The ids in use. Their order means nothing. -/
structure IdPool where
  ids : List DialogId
  nodup : ids.Nodup
deriving DecidableEq

namespace IdPool

instance : EmptyCollection IdPool := ⟨⟨[], List.nodup_nil⟩⟩

instance : Membership DialogId IdPool := ⟨fun pool id => id ∈ pool.ids⟩

instance (id : DialogId) (pool : IdPool) : Decidable (id ∈ pool) :=
  inferInstanceAs (Decidable (id ∈ pool.ids))

def size (pool : IdPool) : Nat := pool.ids.length

def isEmpty (pool : IdPool) : Bool := pool.ids.isEmpty

/-- Adds an id, if it is not there already. -/
def insert (pool : IdPool) (id : DialogId) : IdPool :=
  if reserved : id ∈ pool.ids then pool
  else ⟨id :: pool.ids, List.nodup_cons.mpr ⟨reserved, pool.nodup⟩⟩

/-- The lowest id from zero up that is not reserved. Among one more ids than are reserved
there is a free one, so the search need not go further. -/
def lowestFree (pool : IdPool) : DialogId :=
  let free := (List.range (pool.size + 1)).find? fun n => Int32.ofNat n ∉ pool
  Int32.ofNat (free.getD pool.size)

/-- Reserves the lowest free id. -/
def reserve (pool : IdPool) : DialogId × IdPool :=
  (pool.lowestFree, pool.insert pool.lowestFree)

/-- Reserves a given id and tells whether it could be reserved: it must be free, and it
must not be one of the negative ids, which no dialog can have. -/
def reserveExact (pool : IdPool) (id : DialogId) : Bool × IdPool :=
  if 0 ≤ id ∧ id ∉ pool then (true, pool.insert id) else (false, pool)

/-- Frees an id and tells whether it was reserved. -/
def release (pool : IdPool) (id : DialogId) : Bool × IdPool :=
  (decide (id ∈ pool), ⟨pool.ids.erase id, pool.nodup.erase id⟩)

def releaseAll (pool : IdPool) (ids : List DialogId) : IdPool :=
  ids.foldl (fun pool id => (pool.release id).2) pool

/-- The ids of the dialogs of a graph. -/
def ofGraph (g : Graph) : IdPool :=
  g.toList.foldl (fun pool d => pool.insert d.id) ∅

end IdPool

end Parley
