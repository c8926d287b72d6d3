/-
# The first flaw

Dialogs that do not make a story are refused for one flaw. The ids are looked at first, from
dialog to dialog, then the roots, then where the options lead, and loops of ownership come last.
`IsFirstFlaw` says of every reason that can be given what has to be wrong, and that nothing
before it is. A list with a flaw is refused for its first one. Only where it is a loop there may
be several dialogs to blame, and the one that is named is on the loop and does not merely lead
into it.
-/

import Mathlib
import Parley.Proofs.Validation

namespace Parley

open Relation

/-! ## What is looked for -/

/-- The first member of a list with a property. -/
def IsFirst {α : Type} (bad : α → Prop) (l : List α) (a : α) : Prop :=
  ∃ before after, l = before ++ a :: after ∧ bad a ∧ ∀ b ∈ before, ¬ bad b

/-- Each of the dialogs has an id of its own, and none of the ids is reserved. -/
structure HaveIds (dialogs : List Dialog) : Prop where
  nonneg : ∀ d ∈ dialogs, 0 ≤ d.id
  distinct : (dialogs.map Dialog.id).Nodup

/-- One of the dialogs has this id. -/
def IsIdAmong (dialogs : List Dialog) (id : DialogId) : Prop := ∃ d ∈ dialogs, d.id = id

/-- If the option leads anywhere, it leads to one of the dialogs. -/
def DialogOption.LeadsAmong (dialogs : List Dialog) (option : DialogOption) : Prop :=
  ∀ id, option.destination = .dialog id ∨ option.destination = .redirect id →
    IsIdAmong dialogs id

/-- The dialogs and roots are wrong in this way, and in none that is looked for earlier. -/
def IsFirstFlaw (dialogs : List Dialog) (roots : List DialogId) : GraphError → Prop
  | .negativeId id =>
    ∃ before d after, dialogs = before ++ d :: after ∧ HaveIds before ∧ d.id = id ∧ id < 0
  | .duplicateId id =>
    ∃ before d after, dialogs = before ++ d :: after ∧ HaveIds before ∧ d.id = id ∧ 0 ≤ id ∧
      IsIdAmong before id
  | .unknownRoot id => HaveIds dialogs ∧ IsFirst (¬ IsIdAmong dialogs ·) roots id
  | .missingDestination owner id =>
    HaveIds dialogs ∧ (∀ root ∈ roots, IsIdAmong dialogs root) ∧
      ∃ d option, IsFirst (fun d => ∃ option ∈ d.options, ¬ option.LeadsAmong dialogs) dialogs d ∧
        d.id = owner ∧ IsFirst (¬ ·.LeadsAmong dialogs) d.options option ∧
        (option.destination = .dialog id ∨ option.destination = .redirect id)
  | .ownsItself id =>
    HaveIds dialogs ∧ (∀ root ∈ roots, IsIdAmong dialogs root) ∧
      (∀ d ∈ dialogs, ∀ option ∈ d.options, option.LeadsAmong dialogs) ∧
      TransGen (OwnsAmong dialogs) id id
  -- Only edits of a draft are refused for these.
  | .noSuchOption _ _ => False
  | .noSuchDialog _ => False

/-! ## Searches that stop at the first -/

theorem find?_eq_some_iff_isFirst {α : Type} {bad : α → Prop} [DecidablePred bad] {l : List α}
    {a : α} : (l.find? fun a => bad a) = some a ↔ IsFirst bad l a := by
  rw [List.find?_eq_some_iff_append]
  simp only [decide_eq_true_eq, Bool.not_eq_true', decide_eq_false_iff_not, IsFirst]
  constructor
  · rintro ⟨here, before, after, split, clean⟩
    exact ⟨before, after, split, here, clean⟩
  · rintro ⟨before, after, split, here, clean⟩
    exact ⟨here, before, after, split, clean⟩

theorem findSome?_eq_some_iff_isFirst {α β : Type} {bad : α → Prop} {look : α → Option β}
    {l : List α} {b : β} (finds : ∀ a, (look a).isSome ↔ bad a) :
    l.findSome? look = some b ↔ ∃ a, IsFirst bad l a ∧ look a = some b := by
  simp only [List.findSome?_eq_some_iff, IsFirst, ← finds, Option.not_isSome_iff_eq_none]
  constructor
  · rintro ⟨before, a, after, split, here, clean⟩
    exact ⟨a, ⟨before, after, split, Option.isSome_of_mem here, clean⟩, here⟩
  · rintro ⟨a, ⟨before, after, split, -, clean⟩, here⟩
    exact ⟨before, a, after, split, here, clean⟩

/-- Going through a list fails at one of its members, and comes to it by what is before. -/
theorem foldlM_eq_error_iff {ε α β : Type} {step : β → α → Except ε β} {start : β} {l : List α}
    {e : ε} :
    l.foldlM step start = .error e ↔
      ∃ before a after, l = before ++ a :: after ∧
        ∃ reached, before.foldlM step start = .ok reached ∧ step reached a = .error e := by
  constructor
  · intro failed
    induction l generalizing start with
    | nil => cases failed
    | cons a rest ih =>
        rw [List.foldlM_cons] at failed
        cases here : step start a with
        | error e' =>
            rw [here] at failed
            cases failed
            exact ⟨[], a, rest, rfl, start, rfl, here⟩
        | ok next =>
            rw [here] at failed
            obtain ⟨before, b, after, rfl, reached, gone, failed⟩ := ih failed
            refine ⟨a :: before, b, after, rfl, reached, ?_, failed⟩
            rw [List.foldlM_cons, here]
            exact gone
  · rintro ⟨before, a, after, rfl, reached, gone, failed⟩
    rw [List.foldlM_append, gone]
    show (a :: after).foldlM step reached = .error e
    rw [List.foldlM_cons, failed]
    rfl

namespace Arena

/-! ## The checks -/

theorem exists_foldlM_add_iff {dialogs : List Dialog} :
    (∃ arena, dialogs.foldlM add ∅ = .ok arena) ↔ HaveIds dialogs := by
  simp only [foldlM_add_eq_ok_iff]
  constructor
  · rintro ⟨arena, nonneg, distinct, -, -⟩
    exact ⟨nonneg, distinct⟩
  · rintro ⟨nonneg, distinct⟩
    obtain ⟨arena, lists⟩ := lists_of_nodup distinct
    exact ⟨arena, nonneg, distinct, fun _ _ => List.not_mem_nil, lists⟩

theorem lists_of_foldlM_add {dialogs : List Dialog} {arena : Arena}
    (added : dialogs.foldlM add ∅ = .ok arena) : arena.Lists dialogs :=
  (foldlM_add_eq_ok_iff.mp added).2.2.2

theorem Lists.mem_iff_isIdAmong {arena : Arena} {dialogs : List Dialog}
    (lists : arena.Lists dialogs) {id : DialogId} : id ∈ arena ↔ IsIdAmong dialogs id :=
  lists.mem_iff

theorem add_eq_error_iff {arena : Arena} {d : Dialog} {flaw : GraphError} :
    arena.add d = .error flaw ↔
      flaw = .negativeId d.id ∧ d.id < 0 ∨ flaw = .duplicateId d.id ∧ 0 ≤ d.id ∧ d.id ∈ arena := by
  unfold add
  split
  · rename_i negative
    simp [negative, Int32.not_le.mpr negative, eq_comm]
  · rename_i nonneg
    split <;> simp [Int32.not_lt.mp nonneg, eq_comm, *]

/-- Dialogs cannot be gathered for the first id that is reserved or taken. -/
theorem foldlM_add_eq_error_iff {dialogs : List Dialog} {flaw : GraphError} :
    dialogs.foldlM add ∅ = .error flaw ↔
      ∃ before d after, dialogs = before ++ d :: after ∧ HaveIds before ∧
        (flaw = .negativeId d.id ∧ d.id < 0 ∨
          flaw = .duplicateId d.id ∧ 0 ≤ d.id ∧ IsIdAmong before d.id) := by
  rw [foldlM_eq_error_iff]
  refine exists_congr fun before => exists_congr fun d => exists_congr fun after =>
    and_congr_right fun _ => ?_
  constructor
  · rintro ⟨arena, added, failed⟩
    rw [add_eq_error_iff, (lists_of_foldlM_add added).mem_iff_isIdAmong] at failed
    exact ⟨exists_foldlM_add_iff.mp ⟨arena, added⟩, failed⟩
  · rintro ⟨ids, failed⟩
    obtain ⟨arena, added⟩ := exists_foldlM_add_iff.mpr ids
    rw [← (lists_of_foldlM_add added).mem_iff_isIdAmong] at failed
    exact ⟨arena, added, add_eq_error_iff.mpr failed⟩

/-- Where an option leads, if no dialog is there. -/
def missing? (arena : Arena) (option : DialogOption) : Option DialogId :=
  option.destination.id?.filter (· ∉ arena)

theorem missingDestination?_eq_findSome? (arena : Arena) :
    arena.missingDestination? =
      arena.values.findSome? fun d =>
        d.options.findSome? fun option => (arena.missing? option).map fun id => (d.id, id) := by
  unfold missingDestination? missing?
  congr 1
  funext d
  congr 1
  funext option
  cases option.destination.id? with
  | none => rfl
  | some id => by_cases there : id ∈ arena <;> simp [there, Option.filter]

section Lists

variable {arena : Arena} {dialogs : List Dialog} (lists : arena.Lists dialogs)

include lists

theorem missing?_eq_some_iff {option : DialogOption} {id : DialogId} :
    arena.missing? option = some id ↔
      (option.destination = .dialog id ∨ option.destination = .redirect id) ∧
        ¬ option.LeadsAmong dialogs := by
  rw [missing?, Option.filter_eq_some_iff, ← Destination.id?_eq_some_iff, decide_eq_true_eq,
    lists.mem_iff_isIdAmong]
  refine and_congr_right fun leads => not_congr ?_
  unfold DialogOption.LeadsAmong
  simp only [← Destination.id?_eq_some_iff, leads, Option.some.injEq, forall_eq']

theorem isSome_missing?_iff {option : DialogOption} :
    (arena.missing? option).isSome ↔ ¬ option.LeadsAmong dialogs := by
  rw [Option.isSome_iff_exists]
  simp only [missing?_eq_some_iff lists, exists_and_right, and_iff_right_iff_imp]
  intro astray
  obtain ⟨id, astray⟩ := Classical.not_forall.mp astray
  exact ⟨id, (Classical.not_imp.mp astray).1⟩

/-- The search for a missing destination stops at the first option that has one. -/
theorem missingDestination?_eq_some_iff {owner id : DialogId} :
    arena.missingDestination? = some (owner, id) ↔
      ∃ d option, IsFirst (fun d => ∃ option ∈ d.options, ¬ option.LeadsAmong dialogs) dialogs d ∧
        d.id = owner ∧ IsFirst (¬ ·.LeadsAmong dialogs) d.options option ∧
        (option.destination = .dialog id ∨ option.destination = .redirect id) := by
  have inside (d : Dialog) (option : DialogOption) :
      ((arena.missing? option).map fun id => (d.id, id)).isSome ↔
        ¬ option.LeadsAmong dialogs := by
    rw [Option.isSome_map, isSome_missing?_iff lists]
  have outside (d : Dialog) :
      (d.options.findSome? fun option => (arena.missing? option).map fun id => (d.id, id)).isSome ↔
        ∃ option ∈ d.options, ¬ option.LeadsAmong dialogs := by
    simp only [List.findSome?_isSome_iff, inside d]
  rw [missingDestination?_eq_findSome?, lists.values_eq, findSome?_eq_some_iff_isFirst outside]
  simp only [findSome?_eq_some_iff_isFirst (inside _), Option.map_eq_some_iff, Prod.mk.injEq]
  constructor
  · rintro ⟨d, firstDialog, option, firstOption, missing, found, rfl, rfl⟩
    exact ⟨d, option, firstDialog, rfl, firstOption, ((missing?_eq_some_iff lists).mp found).1⟩
  · rintro ⟨d, option, firstDialog, rfl, firstOption, leads⟩
    have ⟨_, _, _, astray, _⟩ := firstOption
    exact ⟨d, firstDialog, option, firstOption, id,
      (missing?_eq_some_iff lists).mpr ⟨leads, astray⟩, rfl, rfl⟩

theorem missingDestination?_eq_none_iff_leadsAmong :
    arena.missingDestination? = none ↔
      ∀ d ∈ dialogs, ∀ option ∈ d.options, option.LeadsAmong dialogs := by
  have fine (option : DialogOption) : arena.missing? option = none ↔ option.LeadsAmong dialogs := by
    rw [← Option.not_isSome_iff_eq_none, isSome_missing?_iff lists, Classical.not_not]
  rw [missingDestination?_eq_findSome?, lists.values_eq]
  simp only [List.findSome?_eq_none_iff, Option.map_eq_none_iff, fine]

end Lists

/-- Roots are looked at before destinations, and destinations before loops. -/
theorem flaw?_eq_some_iff {arena : Arena} {roots : List DialogId} {flaw : GraphError} :
    arena.flaw? roots = some flaw ↔
      (∃ root, flaw = .unknownRoot root ∧ IsFirst (· ∉ arena) roots root) ∨
      (∀ root ∈ roots, root ∈ arena) ∧
        ((∃ owner id, flaw = .missingDestination owner id ∧
            arena.missingDestination? = some (owner, id)) ∨
          arena.missingDestination? = none ∧
            ∃ id, flaw = .ownsItself id ∧ arena.finish [] arena.keys [] = .error id) := by
  have known : (roots.find? fun root => root ∉ arena) = none ↔ ∀ root ∈ roots, root ∈ arena := by
    simp
  simp only [← find?_eq_some_iff_isFirst, ← known]
  unfold flaw?
  cases roots.find? fun root => root ∉ arena with
  | some root => simp [eq_comm]
  | none =>
      cases arena.missingDestination? with
      | some edge =>
          obtain ⟨owner, id⟩ := edge
          simp [eq_comm]
      | none => cases arena.finish [] arena.keys [] <;> simp [eq_comm]

end Arena

namespace Graph

theorem ofDialogs_eq_error_iff {dialogs : List Dialog} {roots : List DialogId}
    {flaw : GraphError} :
    ofDialogs dialogs roots = .error flaw ↔
      dialogs.foldlM Arena.add ∅ = .error flaw ∨
        ∃ arena, dialogs.foldlM Arena.add ∅ = .ok arena ∧ arena.flaw? roots = some flaw := by
  cases added : dialogs.foldlM Arena.add ∅ with
  | error e =>
      rw [ofDialogs_of_not_added added]
      simp
  | ok arena =>
      rw [ofDialogs_of_added added]
      cases found : arena.flaw? roots <;> simp [found]

theorem isFirstFlaw_of_ofDialogs_eq_error {dialogs : List Dialog} {roots : List DialogId}
    {flaw : GraphError} (refused : ofDialogs dialogs roots = .error flaw) :
    IsFirstFlaw dialogs roots flaw := by
  rcases ofDialogs_eq_error_iff.mp refused with failed | ⟨arena, added, flawed⟩
  · obtain ⟨before, d, after, split, ids, wrong⟩ := Arena.foldlM_add_eq_error_iff.mp failed
    rcases wrong with ⟨rfl, negative⟩ | ⟨rfl, nonneg, taken⟩
    · exact ⟨before, d, after, split, ids, rfl, negative⟩
    · exact ⟨before, d, after, split, ids, rfl, nonneg, taken⟩
  · have ids := Arena.exists_foldlM_add_iff.mp ⟨arena, added⟩
    have lists := Arena.lists_of_foldlM_add added
    simp only [Arena.flaw?_eq_some_iff, lists.mem_iff_isIdAmong] at flawed
    rcases flawed with ⟨root, rfl, first⟩ | ⟨rooted, ⟨owner, id, rfl, missing⟩ | flawed⟩
    · exact ⟨ids, first⟩
    · exact ⟨ids, rooted, (Arena.missingDestination?_eq_some_iff lists).mp missing⟩
    · obtain ⟨linked, id, rfl, searched⟩ := flawed
      have loop := Arena.loops_of_finish_eq_error (by simp) searched
      rw [lists.owns_eq] at loop
      exact ⟨ids, rooted, (Arena.missingDestination?_eq_none_iff_leadsAmong lists).mp linked, loop⟩

theorem ofDialogs_eq_error_of_isFirstFlaw {dialogs : List Dialog} {roots : List DialogId}
    {flaw : GraphError} (first : IsFirstFlaw dialogs roots flaw) :
    ofDialogs dialogs roots = .error flaw ∨
      ∃ id other, flaw = .ownsItself id ∧ ofDialogs dialogs roots = .error (.ownsItself other) := by
  simp only [ofDialogs_eq_error_iff, Arena.foldlM_add_eq_error_iff]
  cases flaw with
  | negativeId id =>
      obtain ⟨before, d, after, split, ids, rfl, negative⟩ := first
      exact .inl (.inl ⟨before, d, after, split, ids, .inl ⟨rfl, negative⟩⟩)
  | duplicateId id =>
      obtain ⟨before, d, after, split, ids, rfl, nonneg, taken⟩ := first
      exact .inl (.inl ⟨before, d, after, split, ids, .inr ⟨rfl, nonneg, taken⟩⟩)
  | unknownRoot id =>
      obtain ⟨ids, first⟩ := first
      obtain ⟨arena, added⟩ := Arena.exists_foldlM_add_iff.mpr ids
      simp only [← (Arena.lists_of_foldlM_add added).mem_iff_isIdAmong] at first
      exact .inl (.inr ⟨arena, added, Arena.flaw?_eq_some_iff.mpr (.inl ⟨id, rfl, first⟩)⟩)
  | missingDestination owner id =>
      obtain ⟨ids, rooted, missing⟩ := first
      obtain ⟨arena, added⟩ := Arena.exists_foldlM_add_iff.mpr ids
      have lists := Arena.lists_of_foldlM_add added
      rw [← Arena.missingDestination?_eq_some_iff lists] at missing
      simp only [← lists.mem_iff_isIdAmong] at rooted
      exact .inl (.inr ⟨arena, added,
        Arena.flaw?_eq_some_iff.mpr (.inr ⟨rooted, .inl ⟨owner, id, rfl, missing⟩⟩)⟩)
  | ownsItself id =>
      obtain ⟨ids, rooted, linked, loop⟩ := first
      obtain ⟨arena, added⟩ := Arena.exists_foldlM_add_iff.mpr ids
      have lists := Arena.lists_of_foldlM_add added
      rw [← Arena.missingDestination?_eq_none_iff_leadsAmong lists] at linked
      simp only [← lists.mem_iff_isIdAmong] at rooted
      rw [← lists.owns_eq] at loop
      cases searched : arena.finish [] arena.keys [] with
      | ok done => exact absurd loop (Arena.finish_keys_isOk_iff.mp ⟨done, searched⟩ id)
      | error other =>
          exact .inr ⟨id, other, rfl, .inr ⟨arena, added,
            Arena.flaw?_eq_some_iff.mpr (.inr ⟨rooted, .inr ⟨linked, other, rfl, searched⟩⟩)⟩⟩
  | noSuchOption id option => exact first.elim
  | noSuchDialog id => exact first.elim

/-- Dialogs that make no story are refused for their first flaw. Where a list has a first flaw, it
is refused for it, or, if the flaw is a dialog on a loop, for a dialog on a loop. -/
theorem refused_for_first_flaw (dialogs : List Dialog) (roots : List DialogId)
    (flaw : GraphError) :
    (ofDialogs dialogs roots = .error flaw → IsFirstFlaw dialogs roots flaw) ∧
      (IsFirstFlaw dialogs roots flaw →
        ofDialogs dialogs roots = .error flaw ∨
          ∃ id other, flaw = .ownsItself id ∧
            ofDialogs dialogs roots = .error (.ownsItself other)) :=
  ⟨isFirstFlaw_of_ofDialogs_eq_error, ofDialogs_eq_error_of_isFirstFlaw⟩

/-- A dialog that leads into a loop of two others. -/
def lasso : List Dialog :=
  [{ (default : Dialog) with
      options := [{ (default : DialogOption) with destination := .dialog 1 }] },
    { (default : Dialog) with
      id := 1
      options := [{ (default : DialogOption) with destination := .dialog 2 }] },
    { (default : Dialog) with
      id := 2
      options :=
        [{ (default : DialogOption) with destination := .redirect 0 },
          { (default : DialogOption) with destination := .dialog 1 }] }]

/-- The lasso is refused for a dialog on its loop, and not for the one before it, to which only a
redirection comes back. With its first dialog in the place of the last, it is refused for the id
that comes again, though a reserved id follows and a root and a destination are missing. -/
theorem refused_for_first_flaw_of_lasso :
    (ofDialogs lasso [0] = .error (.ownsItself 1) ∧ IsFirstFlaw lasso [0] (.ownsItself 1) ∧
      ¬ IsFirstFlaw lasso [0] (.ownsItself 0)) ∧
    let spoiled :=
      lasso.take 2 ++ lasso.take 1 ++ [{ (default : Dialog) with id := -1 }]
    ofDialogs spoiled [7] = .error (.duplicateId 0) ∧
      IsFirstFlaw spoiled [7] (.duplicateId 0) := by
  have looping : ofDialogs lasso [0] = .error (.ownsItself 1) := by cbv
  refine ⟨⟨looping, (refused_for_first_flaw lasso [0] _).1 looping, ?_⟩, ?_⟩
  · rintro ⟨-, -, -, loop⟩
    obtain ⟨last, -, d, listed, -, option, offered, leads⟩ := TransGen.tail'_iff.mp loop
    have apart : ∀ d ∈ lasso, ∀ option ∈ d.options, option.destination ≠ .dialog 0 := by decide
    exact apart d listed option offered leads
  · intro spoiled
    have repeated : ofDialogs spoiled [7] = .error (.duplicateId 0) := by cbv
    exact ⟨repeated, (refused_for_first_flaw spoiled [7] _).1 repeated⟩

end Graph

end Parley
