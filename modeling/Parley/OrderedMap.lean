/-
# Ordered maps

A finite map that remembers the order in which its keys first arrived. Stories list
their dialogs, and texts their languages, in the order of the author, and both are
looked up by key. Writing to a key that is already present changes the value and
moves nothing, so the key order is the history of first arrivals.
-/

namespace Parley

/-- A finite map with its entries in order of first arrival. No two entries share a key. -/
@[ext]
structure OrderedMap (κ α : Type) where
  /-- The entries, oldest key first. -/
  entries : List (κ × α)
  /-- Each key occurs once. -/
  nodup : (entries.map Prod.fst).Nodup
deriving DecidableEq

namespace OrderedMap

variable {κ α : Type}

instance : EmptyCollection (OrderedMap κ α) := ⟨⟨[], List.nodup_nil⟩⟩

instance : Inhabited (OrderedMap κ α) := ⟨∅⟩

/-- The keys, in order of first arrival. -/
def keys (m : OrderedMap κ α) : List κ := m.entries.map Prod.fst

/-- The values, in the order of their keys. -/
def values (m : OrderedMap κ α) : List α := m.entries.map Prod.snd

def size (m : OrderedMap κ α) : Nat := m.entries.length

def isEmpty (m : OrderedMap κ α) : Bool := m.entries.isEmpty

instance : Membership κ (OrderedMap κ α) := ⟨fun m k => k ∈ m.keys⟩

instance [DecidableEq κ] (k : κ) (m : OrderedMap κ α) : Decidable (k ∈ m) :=
  inferInstanceAs (Decidable (k ∈ m.keys))

theorem mem_iff {k : κ} {m : OrderedMap κ α} : k ∈ m ↔ k ∈ m.keys := Iff.rfl

/-- Changes values and leaves every key in place. -/
def mapEntries (m : OrderedMap κ α) (f : κ → α → α) : OrderedMap κ α where
  entries := m.entries.map fun entry => (entry.1, f entry.1 entry.2)
  nodup := by simpa [Function.comp_def] using m.nodup

@[simp] theorem keys_mapEntries (m : OrderedMap κ α) (f : κ → α → α) :
    (m.mapEntries f).keys = m.keys := by
  simp [keys, mapEntries, Function.comp_def]

def mapValues (m : OrderedMap κ α) (f : α → α) : OrderedMap κ α :=
  m.mapEntries fun _ => f

@[simp] theorem keys_mapValues (m : OrderedMap κ α) (f : α → α) :
    (m.mapValues f).keys = m.keys :=
  keys_mapEntries m _

variable [DecidableEq κ]

def get? (m : OrderedMap κ α) (k : κ) : Option α := m.entries.lookup k

theorem lookup_eq_some_iff_mem {entries : List (κ × α)} (nodup : (entries.map Prod.fst).Nodup)
    {k : κ} {value : α} : entries.lookup k = some value ↔ (k, value) ∈ entries := by
  induction entries with
  | nil => simp
  | cons entry rest ih =>
    obtain ⟨key, other⟩ := entry
    rw [List.map_cons, List.nodup_cons] at nodup
    by_cases same : k = key
    · subst same
      have first : (k, value) ∉ rest := fun later => nodup.1 (List.mem_map.mpr ⟨_, later, rfl⟩)
      simp [first, eq_comm]
    · have skip : (k == key) = false := beq_false_of_ne same
      rw [List.lookup_cons, skip]
      simp [ih nodup.2, same]

theorem get?_eq_some_iff {m : OrderedMap κ α} {k : κ} {value : α} :
    m.get? k = some value ↔ (k, value) ∈ m.entries :=
  lookup_eq_some_iff_mem m.nodup

theorem mem_iff_exists_get? {k : κ} {m : OrderedMap κ α} :
    k ∈ m ↔ ∃ value, m.get? k = some value := by
  simp [mem_iff, keys, get?_eq_some_iff]

theorem mem_of_get?_eq_some {m : OrderedMap κ α} {k : κ} {value : α}
    (found : m.get? k = some value) : k ∈ m :=
  mem_iff_exists_get?.mpr ⟨value, found⟩

theorem get?_eq_none_iff {k : κ} {m : OrderedMap κ α} : m.get? k = none ↔ k ∉ m := by
  rw [mem_iff_exists_get?, Option.eq_none_iff_forall_ne_some, not_exists]

theorem mem_values_iff {m : OrderedMap κ α} {value : α} :
    value ∈ m.values ↔ ∃ k, m.get? k = some value := by
  simp [values, get?_eq_some_iff]

theorem get?_mapEntries (m : OrderedMap κ α) (f : κ → α → α) (k : κ) :
    (m.mapEntries f).get? k = (m.get? k).map (f k) := by
  ext value
  rw [get?_eq_some_iff, Option.map_eq_some_iff]
  simp only [mapEntries, List.mem_map, Prod.mk.injEq, Prod.exists, get?_eq_some_iff]
  constructor
  · rintro ⟨key, old, listed, rfl, rfl⟩
    exact ⟨old, listed, rfl⟩
  · rintro ⟨old, listed, rfl⟩
    exact ⟨k, old, listed, rfl, rfl⟩

/-- Changes the value under one key, if the key is present. -/
def modify (m : OrderedMap κ α) (k : κ) (f : α → α) : OrderedMap κ α :=
  m.mapEntries fun key value => if key = k then f value else value

@[simp] theorem keys_modify (m : OrderedMap κ α) (k : κ) (f : α → α) :
    (m.modify k f).keys = m.keys :=
  keys_mapEntries m _

theorem get?_mapValues (m : OrderedMap κ α) (f : α → α) (k : κ) :
    (m.mapValues f).get? k = (m.get? k).map f :=
  get?_mapEntries m _ k

theorem get?_modify (m : OrderedMap κ α) (k : κ) (f : α → α) (key : κ) :
    (m.modify k f).get? key = if key = k then (m.get? key).map f else m.get? key := by
  rw [modify, get?_mapEntries]
  split <;> simp [*]

/-- Adds an entry behind the others. The key must be new. -/
def push (m : OrderedMap κ α) (k : κ) (value : α) (fresh : k ∉ m) : OrderedMap κ α where
  entries := m.entries ++ [(k, value)]
  nodup := by
    rw [List.map_append, List.nodup_append]
    refine ⟨m.nodup, by simp, ?_⟩
    intro key present other added same
    rw [List.map_singleton, List.mem_singleton] at added
    subst same added
    exact fresh present

theorem get?_push (m : OrderedMap κ α) {k : κ} (value : α) (fresh : k ∉ m) (key : κ) :
    (m.push k value fresh).get? key = if key = k then some value else m.get? key := by
  ext other
  rw [get?_eq_some_iff, push, List.mem_append, ← get?_eq_some_iff, List.mem_singleton,
    Prod.mk.injEq]
  split
  · rename_i same
    subst same
    simp [get?_eq_none_iff.mpr fresh, eq_comm]
  · simp [*]

/-- Writes a value under a key. A present key keeps its place, a new one goes to the end. -/
def insert (m : OrderedMap κ α) (k : κ) (value : α) : OrderedMap κ α :=
  if present : k ∈ m then m.modify k fun _ => value else m.push k value present

theorem keys_insert_of_mem {m : OrderedMap κ α} {k : κ} (present : k ∈ m) (value : α) :
    (m.insert k value).keys = m.keys := by
  simp [insert, present]

theorem keys_insert_of_not_mem {m : OrderedMap κ α} {k : κ} (fresh : k ∉ m) (value : α) :
    (m.insert k value).keys = m.keys ++ [k] := by
  simp [insert, fresh, push, keys]

theorem get?_insert (m : OrderedMap κ α) (k : κ) (value : α) (key : κ) :
    (m.insert k value).get? key = if key = k then some value else m.get? key := by
  by_cases present : k ∈ m
  · rw [insert, dif_pos present, get?_modify]
    split
    · rename_i same
      subst same
      obtain ⟨old, found⟩ := mem_iff_exists_get?.mp present
      rw [found, Option.map_some]
    · rfl
  · rw [insert, dif_neg present, get?_push]

/-- Removes an entry and closes the gap. -/
def erase (m : OrderedMap κ α) (k : κ) : OrderedMap κ α where
  entries := m.entries.filter fun entry => entry.1 ≠ k
  nodup := m.nodup.sublist ((List.filter_sublist).map Prod.fst)

theorem keys_erase (m : OrderedMap κ α) (k : κ) :
    (m.erase k).keys = m.keys.filter fun key => key ≠ k := by
  simp [erase, keys, List.filter_map, Function.comp_def]

theorem get?_erase (m : OrderedMap κ α) (k key : κ) :
    (m.erase k).get? key = if key = k then none else m.get? key := by
  ext value
  rw [get?_eq_some_iff, erase, List.mem_filter, ← get?_eq_some_iff]
  split <;> simp [*]

/-- Erasing several keys in turn leaves the entries under the other keys. -/
theorem get?_foldl_erase (m : OrderedMap κ α) (ks : List κ) (key : κ) :
    (ks.foldl erase m).get? key = if key ∈ ks then none else m.get? key := by
  induction ks generalizing m with
  | nil => simp
  | cons k rest ih =>
    rw [List.foldl_cons, ih, get?_erase]
    by_cases same : key = k <;> simp [same]

/-- Writes entries in turn, so a repeated key keeps its first place and its last value. -/
def ofList (entries : List (κ × α)) : OrderedMap κ α :=
  entries.foldl (fun m entry => m.insert entry.1 entry.2) ∅

/-- Whether two maps have the same keys, in any order, with values that `eqv` takes for equal. -/
def isEqv (eqv : α → α → Bool) (m n : OrderedMap κ α) : Bool :=
  m.size == n.size && m.entries.all fun entry => (n.get? entry.1).any (eqv entry.2)

end OrderedMap

end Parley
