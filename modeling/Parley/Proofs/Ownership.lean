/-
# Ownership

The options of a dialog own other dialogs, and a dialog reaches what it owns, what that
owns, and so on. This module reads the two traversals of an arena as statements about
that relation. A walk meets exactly what its pending dialogs reach. The search for loops
finishes what it is given exactly when no dialog reaches itself, and where it fails, it
names a dialog that does.

None of this asks the arena to be sound: an owned dialog may be missing, and then it
owns nothing.
-/

import Mathlib.Logic.Relation
import Parley.Graph.Basic

namespace Parley.Arena

open Relation

/-- One dialog owns another: one of its options leads there and is no redirection. -/
def Owns (arena : Arena) (owner owned : DialogId) : Prop := owned ∈ arena.ownedIds owner

/-- What can be met by going from a dialog to what it owns, any number of times. -/
abbrev Reaches (arena : Arena) : DialogId → DialogId → Prop := ReflTransGen arena.Owns

/-- No dialog comes back to itself by going to what it owns. -/
def IsLoopFree (arena : Arena) : Prop := ∀ id, ¬ TransGen arena.Owns id id

/-- An option of a dialog has this destination. -/
def Leads (arena : Arena) (owner : DialogId) (destination : Destination) : Prop :=
  ∃ d, arena.get? owner = some d ∧ ∃ option ∈ d.options, option.destination = destination

theorem owns_iff_leads {arena : Arena} {owner owned : DialogId} :
    arena.Owns owner owned ↔ arena.Leads owner (.dialog owned) := by
  unfold Owns ownedIds Leads
  cases found : arena.get? owner with
  | none => simp
  | some d =>
      simp only [Dialog.ownedIds, List.mem_filterMap, Option.some.injEq, exists_eq_left']
      refine exists_congr fun option => and_congr_right fun _ => ?_
      cases option.destination <;> simp [Destination.owned?]

theorem mem_of_owns {arena : Arena} {owner owned : DialogId} (owns : arena.Owns owner owned) :
    owner ∈ arena := by
  obtain ⟨d, found, -⟩ := owns_iff_leads.mp owns
  exact OrderedMap.mem_of_get?_eq_some found

/-! ## The walk -/

/-- Going from a dialog to what it owns while staying away from some ids. -/
abbrev ReachesOutside (arena : Arena) (seen : List DialogId) : DialogId → DialogId → Prop :=
  ReflTransGen fun owner owned => arena.Owns owner owned ∧ owned ∉ seen

theorem ReachesOutside.reaches {arena : Arena} {seen : List DialogId} {a b : DialogId}
    (path : arena.ReachesOutside seen a b) : arena.Reaches a b :=
  ReflTransGen.mono (fun _ _ step => step.1) a b path

theorem ReachesOutside.mono {arena : Arena} {seen more : List DialogId} {a b : DialogId}
    (path : arena.ReachesOutside more a b) (covered : ∀ id ∈ seen, id ∈ more) :
    arena.ReachesOutside seen a b :=
  ReflTransGen.mono (fun _ _ step => ⟨step.1, fun old => step.2 (covered _ old)⟩) a b path

/-- A path either never comes to an id, or can be followed from its last visit there. -/
theorem ReachesOutside.split_at {arena : Arena} {seen : List DialogId} {start last : DialogId}
    (path : arena.ReachesOutside seen start last) (id : DialogId) :
    start ≠ id ∧ arena.ReachesOutside (id :: seen) start last ∨
      arena.ReachesOutside (id :: seen) id last := by
  induction path with
  | refl =>
      by_cases same : start = id
      · subst same
        exact Or.inr .refl
      · exact Or.inl ⟨same, .refl⟩
  | @tail middle last _ step ih =>
      by_cases same : last = id
      · subst same
        exact Or.inr .refl
      · have away : last ∉ id :: seen := by simp [same, step.2]
        exact ih.imp (fun path => ⟨path.1, path.2.tail ⟨step.1, away⟩⟩)
          fun path => path.tail ⟨step.1, away⟩

/-- A walk meets what its pending dialogs reach without going through what was seen. -/
theorem mem_walk_iff {arena : Arena} {seen pending : List DialogId} {id : DialogId} :
    id ∈ arena.walk seen pending ↔
      ∃ start ∈ pending, start ∉ seen ∧ arena.ReachesOutside seen start id := by
  fun_induction walk arena seen pending with
  | case1 seen => simp
  | case2 seen first rest old ih =>
      rw [ih]
      simp [old]
  | case3 seen first rest new ih =>
      rw [List.mem_cons, ih]
      constructor
      · rintro (rfl | ⟨start, waiting, outside, path⟩)
        · exact ⟨id, List.mem_cons_self, new, .refl⟩
        · have older : arena.ReachesOutside seen start id :=
            path.mono fun _ => List.mem_cons_of_mem first
          rw [List.mem_cons, not_or] at outside
          rcases List.mem_append.mp waiting with owned | waiting
          · exact ⟨first, List.mem_cons_self, new, older.head ⟨owned, outside.2⟩⟩
          · exact ⟨start, List.mem_cons_of_mem first waiting, outside.2, older⟩
      · rintro ⟨start, waiting, outside, path⟩
        rcases path.split_at first with ⟨other, path⟩ | path
        · have waiting := List.mem_of_ne_of_mem other waiting
          exact Or.inr ⟨start, List.mem_append_right _ waiting, by simp [other, outside], path⟩
        · rcases path.cases_head with rfl | ⟨next, step, path⟩
          · exact Or.inl rfl
          · exact Or.inr ⟨next, List.mem_append_left _ step.1, step.2, path⟩

/-- A walk from the start meets exactly what its pending dialogs reach. -/
theorem mem_walk_nil_iff {arena : Arena} {pending : List DialogId} {id : DialogId} :
    id ∈ arena.walk [] pending ↔ ∃ start ∈ pending, arena.Reaches start id := by
  rw [mem_walk_iff]
  have same : arena.ReachesOutside [] = arena.Reaches := by
    simp [ReachesOutside, Reaches]
  simp [same]

theorem mem_chain_iff {arena : Arena} {root id : DialogId} :
    id ∈ arena.chain root ↔ root ∈ arena ∧ arena.Reaches root id := by
  unfold chain
  split <;> simp [mem_walk_nil_iff, *]

/-- Where nothing comes back to itself, the owner of a chain is not in it. -/
theorem IsLoopFree.not_mem_chain {arena : Arena} (loopFree : arena.IsLoopFree)
    {owner owned : DialogId} (owns : arena.Owns owner owned) : owner ∉ arena.chain owned := by
  intro listed
  exact loopFree owner (.head' owns (mem_chain_iff.mp listed).2)

/-! ## The search for loops -/

/-- Nothing below a finished dialog goes on for ever. -/
abbrev IsGrounded (arena : Arena) : DialogId → Prop :=
  Acc fun owned owner => arena.Owns owner owned

/-- The dialog that a search fails with comes back to itself, provided that everything on
the path leads to everything pending. -/
theorem loops_of_finish_eq_error {arena : Arena} {path pending finished : List DialogId}
    {looping : DialogId}
    (leads : ∀ id ∈ path, ∀ next ∈ pending, TransGen arena.Owns id next)
    (failed : arena.finish path pending finished = .error looping) :
    TransGen arena.Owns looping looping := by
  fun_induction finish arena path pending finished with
  | case1 => cases failed
  | case2 path id rest finished repeated =>
      cases failed
      exact leads _ repeated _ List.mem_cons_self
  | case3 path id rest finished _ _ ih =>
      exact ih (fun other on next waiting => leads other on next (.tail _ waiting)) failed
  | case4 path id rest finished _ _ inner below ih =>
      cases failed
      refine ih (fun other on next owned => ?_) below
      rcases List.mem_cons.mp on with rfl | on
      · exact .single owned
      · exact (leads other on id List.mem_cons_self).tail owned
  | case5 path id rest finished _ _ more below _ ih =>
      exact ih (fun other on next waiting => leads other on next (.tail _ waiting)) failed

/-- A search that succeeds keeps what was finished, finishes what was pending, and finishes
a dialog only after all that it owns. -/
theorem grounded_of_finish_eq_ok {arena : Arena} {path pending finished done : List DialogId}
    (grounded : ∀ id ∈ finished, arena.IsGrounded id)
    (succeeded : arena.finish path pending finished = .ok done) :
    (∀ id ∈ done, arena.IsGrounded id) ∧ ∀ id ∈ pending ++ finished, id ∈ done := by
  fun_induction finish arena path pending finished generalizing done with
  | case1 =>
      cases succeeded
      exact ⟨grounded, by simp⟩
  | case2 => cases succeeded
  | case3 path id rest finished _ known ih =>
      obtain ⟨sound, kept⟩ := ih grounded succeeded
      refine ⟨sound, fun other listed => kept other ?_⟩
      rcases List.mem_cons.mp listed with rfl | listed
      · exact List.mem_append_right _ known
      · exact listed
  | case4 => cases succeeded
  | case5 path id rest finished _ _ more below inner outer =>
      obtain ⟨sound, kept⟩ := inner grounded below
      have here : arena.IsGrounded id :=
        .intro id fun owned owns => sound owned (kept owned (List.mem_append_left _ owns))
      obtain ⟨soundAfter, keptAfter⟩ := outer (by simpa using ⟨here, sound⟩) succeeded
      refine ⟨soundAfter, fun other listed => keptAfter other ?_⟩
      rcases List.mem_append.mp listed with waiting | old
      · rcases List.mem_cons.mp waiting with rfl | waiting
        · simp
        · exact List.mem_append_left _ waiting
      · simp [kept other (List.mem_append_right _ old)]

theorem not_transGen_of_isGrounded {arena : Arena} {id : DialogId}
    (grounded : arena.IsGrounded id) : ¬ TransGen arena.Owns id id := by
  intro loop
  induction grounded with
  | intro id _ ih =>
      obtain ⟨next, owns, back⟩ := TransGen.head'_iff.mp loop
      exact ih next owns (TransGen.tail' back owns)

/-- The search through a whole arena succeeds exactly when nothing comes back to itself. -/
theorem finish_keys_isOk_iff {arena : Arena} :
    (∃ done, arena.finish [] arena.keys [] = .ok done) ↔ arena.IsLoopFree := by
  constructor
  · rintro ⟨done, succeeded⟩ id loop
    obtain ⟨sound, kept⟩ := grounded_of_finish_eq_ok (by simp) succeeded
    obtain ⟨next, owns, -⟩ := TransGen.head'_iff.mp loop
    have listed : id ∈ arena.keys ++ [] := by simpa using OrderedMap.mem_iff.mp (mem_of_owns owns)
    exact not_transGen_of_isGrounded (sound id (kept id listed)) loop
  · intro loopFree
    cases searched : arena.finish [] arena.keys [] with
    | ok done => exact ⟨done, rfl⟩
    | error looping =>
        exact absurd (loops_of_finish_eq_error (by simp) searched) (loopFree looping)

end Parley.Arena
