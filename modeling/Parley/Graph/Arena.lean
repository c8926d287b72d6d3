/-
# Arenas

An arena holds dialogs under their ids, in the order of the author. Ownership between
them is read off the options and need not be sound: while a story is being written,
options may own dialogs that are missing, or own each other in a loop. Both traversals
of this module therefore take any arena, and end because every dialog is entered once.

`Arena.walk` lists what is owned in the order of a reader who follows each option to its
end before the next one. `Arena.finish` looks for a dialog that owns itself through
others.
-/

import Parley.Dialog

namespace Parley

/-- Dialogs by id, in the order of the author. -/
abbrev Arena := OrderedMap DialogId Dialog

namespace Arena

/-- The dialogs that the options of a dialog own. A missing dialog owns nothing. -/
def ownedIds (arena : Arena) (id : DialogId) : List DialogId :=
  match arena.get? id with
  | some d => d.ownedIds
  | none => []

/-- How many dialogs of the arena are not among the given ids. -/
def countOutside (arena : Arena) (ids : List DialogId) : Nat :=
  arena.keys.countP fun key => key ∉ ids

theorem countOutside_cons_le (arena : Arena) (id : DialogId) (ids : List DialogId) :
    arena.countOutside (id :: ids) ≤ arena.countOutside ids := by
  apply List.countP_mono_left
  simp only [decide_eq_true_eq, List.mem_cons, not_or]
  exact fun _ _ outside => outside.2

theorem countOutside_cons_lt {arena : Arena} {id : DialogId} {ids : List DialogId}
    (present : id ∈ arena) (outside : id ∉ ids) :
    arena.countOutside (id :: ids) < arena.countOutside ids := by
  have split := List.countP_eq_countP_filter_add arena.keys (fun key => decide (key ∉ ids))
    (fun key => decide (key = id))
  have here : 0 < (arena.keys.filter fun key => decide (key = id)).countP
      fun key => decide (key ∉ ids) := by
    rw [List.countP_pos_iff]
    exact ⟨id, by simpa using OrderedMap.mem_iff.mp present, by simpa using outside⟩
  have others : arena.countOutside (id :: ids) ≤
      (arena.keys.filter fun key => !decide (key = id)).countP
        fun key => decide (key ∉ ids) := by
    rw [countOutside, List.countP_filter]
    apply List.countP_mono_left
    simp only [decide_eq_true_eq, List.mem_cons, not_or, Bool.and_eq_true,
      Bool.not_eq_eq_eq_not, Bool.not_true, decide_eq_false_iff_not]
    exact fun _ _ outside => ⟨outside.2, outside.1⟩
  rw [countOutside, countOutside] at *
  omega

theorem ownedIds_of_not_mem {arena : Arena} {id : DialogId} (absent : id ∉ arena) :
    arena.ownedIds id = [] := by
  rw [ownedIds, OrderedMap.get?_eq_none_iff.mpr absent]

/-- Entering a dialog for the first time leaves fewer dialogs to enter, unless it is
missing, and then it owns nothing. -/
theorem enter_cases (arena : Arena) {id : DialogId} {ids : List DialogId}
    (outside : id ∉ ids) :
    arena.countOutside (id :: ids) < arena.countOutside ids ∨
      arena.countOutside (id :: ids) = arena.countOutside ids ∧ arena.ownedIds id = [] := by
  by_cases present : id ∈ arena
  · exact Or.inl (countOutside_cons_lt present outside)
  · rcases Nat.lt_or_eq_of_le (countOutside_cons_le arena id ids) with less | same
    · exact Or.inl less
    · exact Or.inr ⟨same, ownedIds_of_not_mem present⟩

/-- The ids met when pending dialogs are followed through what they own, each at its
first meeting, leaving out those seen before. An owned dialog that is missing is met
like any other and leads nowhere. -/
def walk (arena : Arena) (seen : List DialogId) : List DialogId → List DialogId
  | [] => []
  | id :: rest =>
    if id ∈ seen then walk arena seen rest
    else id :: walk arena (id :: seen) (arena.ownedIds id ++ rest)
termination_by pending => (arena.countOutside seen, pending.length)
decreasing_by
  · exact Prod.Lex.right _ (by simp)
  · rcases enter_cases arena ‹id ∉ seen› with less | ⟨same, nothing⟩
    · exact Prod.Lex.left _ _ less
    · rw [same, nothing]
      exact Prod.Lex.right _ (by simp)

/-- A dialog and all that it owns, itself first. A dialog that is missing owns no chain. -/
def chain (arena : Arena) (root : DialogId) : List DialogId :=
  if root ∈ arena then arena.walk [] [root] else []

/-- Finishes pending dialogs, each after all that it owns, and returns the finished ones.
Fails with a dialog that is owned while it is itself being followed. -/
def finish (arena : Arena) (path : List DialogId) :
    List DialogId → List DialogId → Except DialogId (List DialogId)
  | [], finished => .ok finished
  | id :: rest, finished =>
    if id ∈ path then .error id
    else if id ∈ finished then finish arena path rest finished
    else
      match finish arena (id :: path) (arena.ownedIds id) finished with
      | .error looping => .error looping
      | .ok finished => finish arena path rest (id :: finished)
termination_by pending => (arena.countOutside path, pending.length)
decreasing_by
  · exact Prod.Lex.right _ (by simp)
  · rcases enter_cases arena ‹id ∉ path› with less | ⟨same, nothing⟩
    · exact Prod.Lex.left _ _ less
    · rw [same, nothing]
      exact Prod.Lex.right _ (by simp)
  · exact Prod.Lex.right _ (by simp)

end Arena

end Parley
