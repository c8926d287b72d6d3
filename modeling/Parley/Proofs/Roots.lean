/-
# Searching root by root

A search goes through the chains of the roots one after the other, and passes over whatever it
met before, also under an earlier root. Nothing is lost by that. When the chain of a root has
been met to its end, all that its dialogs own has been met as well, so a later chain loses only
what was looked at already. The search is the same as one that starts afresh at every root, and
in a story it finds exactly what is in the chain of one of them.
-/

import Parley.Proofs.Chains
import Parley.Proofs.Search

namespace Parley

namespace Arena

/-! ## What earlier walks leave to later ones -/

/-- Whatever one of these dialogs owns is one of them. -/
def IsClosed (arena : Arena) (ids : List DialogId) : Prop :=
  ∀ id ∈ ids, ∀ owned ∈ arena.ownedIds id, owned ∈ ids

theorem isClosed_walk (arena : Arena) (pending : List DialogId) :
    arena.IsClosed (arena.walk [] pending) := by
  intro id met owned owns
  obtain ⟨start, waiting, path⟩ := mem_walk_nil_iff.mp met
  exact mem_walk_nil_iff.mpr ⟨start, waiting, path.tail owns⟩

theorem walk_append_of_seen {arena : Arena} {seen ids : List DialogId}
    (old : ∀ id ∈ ids, id ∈ seen) (rest : List DialogId) :
    arena.walk seen (ids ++ rest) = arena.walk seen rest := by
  induction ids with
  | nil => rfl
  | cons id ids ih =>
      rw [List.forall_mem_cons] at old
      rw [List.cons_append, walk, if_pos old.1, ih old.2]

/-- Among dialogs that own nothing outside, a walk can be spared: it meets the same without
them, in the same order. -/
theorem walk_append_of_isClosed {arena : Arena} {known : List DialogId}
    (closed : arena.IsClosed known) (seen pending : List DialogId) :
    arena.walk (seen ++ known) pending = (arena.walk seen pending).filter (· ∉ known) := by
  fun_induction walk arena seen pending with
  | case1 => rw [walk, List.filter_nil]
  | case2 seen id rest old ih =>
      rw [walk, if_pos (List.mem_append_left known old), ih]
  | case3 seen id rest new ih =>
      by_cases inside : id ∈ known
      · -- The walk that enters the known dialogs meets nothing but known ones below this one.
        have same (other : DialogId) : other ∈ seen ++ known ↔ other ∈ id :: seen ++ known := by
          rw [List.cons_append, List.mem_cons]
          constructor
          · exact Or.inr
          · rintro (rfl | there)
            · exact List.mem_append_right seen inside
            · exact there
        have below : ∀ owned ∈ arena.ownedIds id, owned ∈ id :: seen ++ known := by
          intro owned owns
          exact List.mem_append_right (id :: seen) (closed id inside owned owns)
        rw [walk, if_pos (List.mem_append_right seen inside),
          List.filter_cons_of_neg (by simpa using inside), ← ih, walk_append_of_seen below,
          walk_congr_seen same]
      · have new : id ∉ seen ++ known := by
          rw [List.mem_append, not_or]
          exact ⟨new, inside⟩
        rw [walk, if_neg new, List.filter_cons_of_pos (by simpa using inside), ← ih,
          List.cons_append]

/-- A walk from several dialogs is the walk from the first ones, followed by what the walk from
the others adds to it. -/
theorem walk_nil_append (arena : Arena) (ids rest : List DialogId) :
    arena.walk [] (ids ++ rest) =
      arena.walk [] ids ++ (arena.walk [] rest).filter (· ∉ arena.walk [] ids) := by
  have spared := walk_append_of_isClosed (arena.isClosed_walk ids) [] rest
  rw [List.nil_append] at spared
  rw [walk_append, ← walk_eq_visit, List.append_nil, spared]

end Arena

namespace Graph

/-! ## The search -/

/-- Where nothing is found in the first list, it does not matter that the second one is searched
without it. -/
theorem findSome?_append_filter {α β : Type} [DecidableEq α] (look : α → Option β)
    (first second : List α) :
    (first ++ second.filter (· ∉ first)).findSome? look =
      (first.findSome? look).or (second.findSome? look) := by
  rw [List.findSome?_append]
  cases found : first.findSome? look with
  | some b => rfl
  | none =>
      rw [List.findSome?_eq_none_iff] at found
      rw [Option.none_or, Option.none_or]
      induction second with
      | nil => rfl
      | cons a rest ih =>
          by_cases before : a ∈ first
          · rw [List.filter_cons_of_neg (by simpa using before), ih, List.findSome?_cons,
              found a before]
          · rw [List.filter_cons_of_pos (by simpa using before), List.findSome?_cons,
              List.findSome?_cons, ih]

/-- The dialog that is met under one id, if it carries the one that is sought. -/
def sought? (g : Graph) (id met : DialogId) : Option Dialog :=
  (g.get? met).filter fun d => d.id == id

/-- Where dialogs are kept under their ids, what is sought is met under its own id only. -/
theorem sought?_eq_some_iff {g : Graph} (sound : g.dialogs.IsSound g.roots) {id met : DialogId}
    {d : Dialog} : g.sought? id met = some d ↔ met = id ∧ g.get? id = some d := by
  rw [sought?, Option.filter_eq_some_iff, beq_iff_eq]
  constructor
  · rintro ⟨there, named⟩
    obtain rfl : met = id := (sound.keyed there).symm.trans named
    exact ⟨rfl, there⟩
  · rintro ⟨rfl, there⟩
    exact ⟨there, sound.keyed there⟩

/-- A missing root has no chain, and there is nothing to be found at it. -/
theorem findSome?_chain (g : Graph) (id root : DialogId) :
    (g.chain root).findSome? (g.sought? id) =
      (g.dialogs.walk [] [root]).findSome? (g.sought? id) := by
  by_cases present : root ∈ g.dialogs
  · rw [chain, Arena.chain, if_pos present]
  · have nothing : g.sought? id root = none := by
      rw [sought?, get?, OrderedMap.get?_eq_none_iff.mpr present]
      rfl
    rw [chain, Arena.chain, if_neg present, Arena.walk, if_neg List.not_mem_nil,
      Arena.ownedIds_of_not_mem present, List.nil_append, Arena.walk, List.findSome?_cons, nothing]

/-- The search finds what is found by looking through the chains of the roots, one after the
other and each from its beginning. -/
theorem find?_eq_findSome?_chain (g : Graph) (id : DialogId) :
    g.find? id = g.roots.findSome? fun root => (g.chain root).findSome? (g.sought? id) := by
  show (g.dialogs.walk [] g.roots).findSome? (g.sought? id) = _
  generalize g.roots = roots
  induction roots with
  | nil => rw [Arena.walk, List.findSome?_nil, List.findSome?_nil]
  | cons root rest ih =>
      rw [← List.singleton_append, Arena.walk_nil_append, findSome?_append_filter, ih,
        ← findSome?_chain, List.singleton_append, List.findSome?_cons]
      cases (g.chain root).findSome? (g.sought? id) <;> rfl

/-- In a story the search finds exactly the ids that are in the chain of a root, and under each of
them the dialog that has it. -/
theorem find?_isSome_iff_mem_chain {dialogs : List Dialog} {roots : List DialogId} {g : Graph}
    (made : ofDialogs dialogs roots = .ok g) (id : DialogId) :
    ((g.find? id).isSome ↔ ∃ root ∈ g.roots, id ∈ g.chain root) ∧
      ∀ d, g.find? id = some d → g.get? id = some d := by
  obtain ⟨-, -, sound⟩ := ofDialogs_eq_ok_iff.mp made
  constructor
  · rw [find?_eq_findSome?_chain, List.findSome?_isSome_iff]
    refine exists_congr fun root => and_congr_right fun listed => ?_
    rw [List.findSome?_isSome_iff]
    constructor
    · rintro ⟨met, inChain, found⟩
      obtain ⟨d, found⟩ := Option.isSome_iff_exists.mp found
      exact ((sought?_eq_some_iff sound).mp found).1 ▸ inChain
    · intro inChain
      have reached : g.Reached id := ⟨root, listed, (Arena.mem_chain_iff.mp inChain).2⟩
      obtain ⟨d, there⟩ := OrderedMap.mem_iff_exists_get?.mp (mem_of_reached sound reached)
      have found := (sought?_eq_some_iff sound).mpr ⟨rfl, there⟩
      exact ⟨id, inChain, Option.isSome_of_mem found⟩
  · intro d found
    rw [find?_eq_findSome?_chain] at found
    obtain ⟨root, -, found⟩ := List.exists_of_findSome?_eq_some found
    obtain ⟨met, -, found⟩ := List.exists_of_findSome?_eq_some found
    exact ((sought?_eq_some_iff sound).mp found).2

/-- The diamond, told from the two dialogs that own its last one. No root owns its first one, to
which only a redirection leads. -/
def diamondFromInside : Graph where
  dialogs :=
    { entries := diamond.map fun d => (d.id, d)
      nodup := by decide }
  roots := [1, 2, 1]

/-- The last dialog of the diamond, which is met under the first root and passed over under the
second, is found. The first one is in no chain, and it is not found though it is there. -/
theorem find?_isSome_iff_mem_chain_in_diamond :
    ofDialogs diamond [1, 2, 1] = .ok diamondFromInside ∧
      diamondFromInside.chain 1 = [1, 3] ∧ diamondFromInside.chain 2 = [2, 3] ∧
      (diamondFromInside.find? 3).isSome ∧ (diamondFromInside.get? 0).isSome ∧
      diamondFromInside.find? 0 = none := by
  have made : ofDialogs diamond [1, 2, 1] = .ok diamondFromInside := by cbv
  have first : diamondFromInside.chain 1 = [1, 3] := by cbv
  have second : diamondFromInside.chain 2 = [2, 3] := by cbv
  refine ⟨made, first, second, ?_, by cbv, ?_⟩
  · apply (find?_isSome_iff_mem_chain made 3).1.mpr
    exact ⟨2, by decide, second ▸ by decide⟩
  · rw [← Option.not_isSome_iff_eq_none, (find?_isSome_iff_mem_chain made 0).1]
    rintro ⟨root, listed, inChain⟩
    have listed : root ∈ ([1, 2, 1] : List DialogId) := listed
    have apart : root = 1 ∨ root = 2 := by grind
    rcases apart with rfl | rfl
    · rw [first] at inChain
      exact absurd inChain (by decide)
    · rw [second] at inChain
      exact absurd inChain (by decide)

end Graph

end Parley
