/-
# What makes dialogs a story

`IsStory` says, of a list of dialogs and of roots, what a story needs: ids that no two
dialogs share and that are not reserved, roots and destinations that exist, and no dialog
that reaches itself through what it owns. Making a graph succeeds on exactly these lists
and keeps them as they are. `Arena.IsSound` is the same condition on an arena, where it
is easier to follow while dialogs come and go.
-/

import Parley.Proofs.Ownership

namespace Parley

open Relation

/-- Among some dialogs, one owns another: an option leads there and is no redirection. -/
def OwnsAmong (dialogs : List Dialog) (owner owned : DialogId) : Prop :=
  ∃ d ∈ dialogs, d.id = owner ∧ ∃ option ∈ d.options, option.destination = .dialog owned

/-- What dialogs and roots need to make a story. -/
structure IsStory (dialogs : List Dialog) (roots : List DialogId) : Prop where
  /-- The reserved ids are left free. -/
  nonneg : ∀ d ∈ dialogs, 0 ≤ d.id
  /-- No two dialogs share an id. -/
  distinct : (dialogs.map Dialog.id).Nodup
  /-- Every root is a dialog. -/
  rooted : ∀ root ∈ roots, ∃ d ∈ dialogs, d.id = root
  /-- Every option that leads somewhere leads to a dialog. -/
  linked : ∀ d ∈ dialogs, ∀ option ∈ d.options, ∀ id,
    option.destination = .dialog id ∨ option.destination = .redirect id →
      ∃ next ∈ dialogs, next.id = id
  /-- No dialog reaches itself through what it owns. Redirections do not count. -/
  loopFree : ∀ d ∈ dialogs, ¬ TransGen (OwnsAmong dialogs) d.id d.id

theorem Destination.id?_eq_some_iff {destination : Destination} {id : DialogId} :
    destination.id? = some id ↔ destination = .dialog id ∨ destination = .redirect id := by
  cases destination <;> simp [Destination.id?]

theorem bind_eq_ok_iff {ε α β : Type} {x : Except ε α} {next : α → Except ε β} {b : β} :
    (x >>= next) = .ok b ↔ ∃ a, x = .ok a ∧ next a = .ok b := by
  cases x <;> simp [bind, Except.bind]

namespace Arena

/-! ## Arenas that hold a list of dialogs -/

/-- The arena holds these dialogs in this order, each under its own id. -/
def Lists (arena : Arena) (dialogs : List Dialog) : Prop :=
  arena.entries = dialogs.map fun d => (d.id, d)

theorem mem_of_entries_eq_append {arena after : Arena} {d : Dialog} {id : DialogId}
    (grown : after.entries = arena.entries ++ [(d.id, d)]) :
    id ∈ after ↔ id ∈ arena ∨ id = d.id := by
  simp [OrderedMap.mem_iff, OrderedMap.keys, grown]

theorem add_eq_ok_iff {arena after : Arena} {d : Dialog} :
    arena.add d = .ok after ↔
      0 ≤ d.id ∧ d.id ∉ arena ∧ after.entries = arena.entries ++ [(d.id, d)] := by
  unfold add
  split
  · rename_i negative
    simp [Int32.not_le.mpr negative]
  · rename_i nonneg
    split
    · simp_all
    · rename_i absent
      simp [Int32.not_lt.mp nonneg, absent, OrderedMap.ext_iff, OrderedMap.push, eq_comm]

/-- Adding dialogs in turn succeeds when their ids are neither reserved, nor repeated, nor
taken before, and then they stand behind the dialogs that were there. -/
theorem foldlM_add_eq_ok_iff {arena after : Arena} {dialogs : List Dialog} :
    dialogs.foldlM add arena = .ok after ↔
      (∀ d ∈ dialogs, 0 ≤ d.id) ∧ (dialogs.map Dialog.id).Nodup ∧ (∀ d ∈ dialogs, d.id ∉ arena) ∧
        after.entries = arena.entries ++ dialogs.map fun d => (d.id, d) := by
  induction dialogs generalizing arena with
  | nil => simp [pure, Except.pure, OrderedMap.ext_iff, eq_comm]
  | cons d rest ih =>
      rw [List.foldlM_cons, bind_eq_ok_iff]
      simp only [List.forall_mem_cons, List.map_cons, List.nodup_cons]
      constructor
      · rintro ⟨next, added, rested⟩
        obtain ⟨nonneg, absent, grown⟩ := add_eq_ok_iff.mp added
        obtain ⟨nonnegs, distinct, absents, grownAll⟩ := ih.mp rested
        have apart : ∀ other ∈ rest, other.id ∉ arena ∧ other.id ≠ d.id := fun other listed => by
          simpa [mem_of_entries_eq_append grown] using absents other listed
        have new : d.id ∉ rest.map Dialog.id := by
          intro listed
          obtain ⟨other, listed, same⟩ := List.mem_map.mp listed
          exact (apart other listed).2 same
        refine ⟨⟨nonneg, nonnegs⟩, ⟨new, distinct⟩,
          ⟨absent, fun other listed => (apart other listed).1⟩, ?_⟩
        rw [grownAll, grown, List.append_assoc, List.singleton_append]
      · rintro ⟨⟨nonneg, nonnegs⟩, ⟨new, distinct⟩, ⟨absent, absents⟩, grownAll⟩
        have grown : (arena.push d.id d absent).entries = arena.entries ++ [(d.id, d)] := rfl
        refine ⟨_, add_eq_ok_iff.mpr ⟨nonneg, absent, grown⟩, ih.mpr ⟨nonnegs, distinct, ?_, ?_⟩⟩
        · intro other listed
          rw [mem_of_entries_eq_append grown, not_or]
          exact ⟨absents other listed, fun same => new (List.mem_map.mpr ⟨other, listed, same⟩)⟩
        · rw [grownAll, grown, List.append_assoc, List.singleton_append]

theorem lists_of_nodup {dialogs : List Dialog} (distinct : (dialogs.map Dialog.id).Nodup) :
    ∃ arena : Arena, arena.Lists dialogs := by
  have nodup : ((dialogs.map fun d => (d.id, d)).map Prod.fst).Nodup := by
    simpa [Function.comp_def] using distinct
  exact ⟨⟨_, nodup⟩, rfl⟩

namespace Lists

variable {arena : Arena} {dialogs : List Dialog}

theorem values_eq (lists : arena.Lists dialogs) : arena.values = dialogs := by
  unfold Lists at lists
  simp [OrderedMap.values, lists, Function.comp_def]

theorem keys_eq (lists : arena.Lists dialogs) : arena.keys = dialogs.map Dialog.id := by
  unfold Lists at lists
  simp [OrderedMap.keys, lists, Function.comp_def]

theorem get?_eq_some_iff (lists : arena.Lists dialogs) {id : DialogId} {d : Dialog} :
    arena.get? id = some d ↔ d ∈ dialogs ∧ d.id = id := by
  unfold Lists at lists
  rw [OrderedMap.get?_eq_some_iff, lists, List.mem_map]
  constructor
  · rintro ⟨listed, present, same⟩
    cases same
    exact ⟨present, rfl⟩
  · rintro ⟨present, rfl⟩
    exact ⟨d, present, rfl⟩

theorem mem_iff (lists : arena.Lists dialogs) {id : DialogId} :
    id ∈ arena ↔ ∃ d ∈ dialogs, d.id = id := by
  rw [OrderedMap.mem_iff, lists.keys_eq, List.mem_map]

theorem owns_eq (lists : arena.Lists dialogs) : arena.Owns = OwnsAmong dialogs := by
  ext owner owned
  simp only [owns_iff_leads, Leads, OwnsAmong, lists.get?_eq_some_iff, and_assoc]

end Lists

/-- An arena and roots make a story when every dialog stands under its own id, no id is
reserved, roots and destinations are there, and no dialog reaches itself. -/
structure IsSound (arena : Arena) (roots : List DialogId) : Prop where
  keyed : ∀ {id d}, arena.get? id = some d → d.id = id
  nonneg : ∀ {id}, id ∈ arena → 0 ≤ id
  rooted : ∀ {root}, root ∈ roots → root ∈ arena
  linked : ∀ {owner destination id}, arena.Leads owner destination →
    destination.id? = some id → id ∈ arena
  loopFree : arena.IsLoopFree

theorem lists_values {arena : Arena} (keyed : ∀ {id d}, arena.get? id = some d → d.id = id) :
    arena.Lists arena.values := by
  unfold Lists OrderedMap.values
  rw [List.map_map]
  have unchanged : arena.entries.map ((fun d => (d.id, d)) ∘ Prod.snd) = arena.entries.map id := by
    refine List.map_congr_left fun entry listed => ?_
    exact Prod.ext (keyed (OrderedMap.get?_eq_some_iff.mpr listed)) rfl
  rw [unchanged, List.map_id]

theorem isStory_iff_isSound {arena : Arena} {dialogs : List Dialog} {roots : List DialogId}
    (lists : arena.Lists dialogs) : IsStory dialogs roots ↔ arena.IsSound roots := by
  constructor
  · intro story
    refine ⟨fun found => (lists.get?_eq_some_iff.mp found).2, fun {id} present => ?_,
      fun listed => lists.mem_iff.mpr (story.rooted _ listed), ?_, ?_⟩
    · obtain ⟨d, listed, rfl⟩ := lists.mem_iff.mp present
      exact story.nonneg d listed
    · rintro owner destination id ⟨d, found, option, offered, rfl⟩ leads
      have listed := (lists.get?_eq_some_iff.mp found).1
      exact lists.mem_iff.mpr
        (story.linked d listed option offered id (Destination.id?_eq_some_iff.mp leads))
    · intro id loop
      obtain ⟨next, owns, -⟩ := TransGen.head'_iff.mp loop
      obtain ⟨d, listed, rfl⟩ := lists.mem_iff.mp (mem_of_owns owns)
      exact story.loopFree d listed (lists.owns_eq ▸ loop)
  · intro sound
    refine ⟨fun d listed => sound.nonneg (lists.mem_iff.mpr ⟨d, listed, rfl⟩), ?_,
      fun root listed => lists.mem_iff.mp (sound.rooted listed), ?_, ?_⟩
    · rw [← lists.keys_eq]
      exact arena.nodup
    · intro d listed option offered id leads
      have found := lists.get?_eq_some_iff.mpr ⟨listed, rfl⟩
      exact lists.mem_iff.mp (sound.linked ⟨d, found, option, offered, rfl⟩
        (Destination.id?_eq_some_iff.mpr leads))
    · intro d _ loop
      exact sound.loopFree d.id (lists.owns_eq ▸ loop)

/-! ## The checks -/

theorem missingDestination?_eq_none_iff {arena : Arena} :
    arena.missingDestination? = none ↔
      ∀ owner destination id, arena.Leads owner destination → destination.id? = some id →
        id ∈ arena := by
  simp only [missingDestination?, List.findSome?_eq_none_iff, OrderedMap.mem_values_iff]
  constructor
  · rintro none owner destination id ⟨d, found, option, offered, rfl⟩ leads
    have here := none d ⟨owner, found⟩ option offered
    simpa [leads] using here
  · rintro linked d ⟨owner, found⟩ option offered
    cases leads : option.destination.id? with
    | none => rfl
    | some id => exact if_pos (linked owner _ id ⟨d, found, option, offered, rfl⟩ leads)

theorem flaw?_eq_none_iff {arena : Arena} {roots : List DialogId} :
    arena.flaw? roots = none ↔
      (∀ root ∈ roots, root ∈ arena) ∧ arena.missingDestination? = none ∧ arena.IsLoopFree := by
  have known : (roots.find? fun root => root ∉ arena) = none ↔ ∀ root ∈ roots, root ∈ arena := by
    simp
  rw [← finish_keys_isOk_iff, ← known, flaw?]
  cases roots.find? fun root => root ∉ arena with
  | some root => simp
  | none =>
      cases arena.missingDestination? with
      | some edge => simp
      | none => cases arena.finish [] arena.keys [] <;> simp

end Arena

namespace Graph

theorem ofDialogs_of_not_added {dialogs : List Dialog} {flaw : GraphError}
    (refused : dialogs.foldlM Arena.add ∅ = .error flaw) (roots : List DialogId) :
    ofDialogs dialogs roots = .error flaw := by
  unfold ofDialogs
  rw [refused]
  rfl

theorem ofDialogs_of_added {dialogs : List Dialog} {arena : Arena}
    (added : dialogs.foldlM Arena.add ∅ = .ok arena) (roots : List DialogId) :
    ofDialogs dialogs roots = (arena.flaw? roots).elim (.ok ⟨arena, roots⟩) .error := by
  unfold ofDialogs
  rw [added]
  cases found : arena.flaw? roots with
  | none =>
      simp only [bind, Except.bind, found]
      rfl
  | some flaw =>
      simp only [bind, Except.bind, found]
      rfl

theorem ofDialogs_eq_ok_iff_flaw? {dialogs : List Dialog} {roots : List DialogId} {g : Graph} :
    ofDialogs dialogs roots = .ok g ↔
      ∃ arena, dialogs.foldlM Arena.add ∅ = .ok arena ∧ arena.flaw? roots = none ∧
        g = ⟨arena, roots⟩ := by
  rw [ofDialogs, bind_eq_ok_iff]
  refine exists_congr fun arena => and_congr_right fun _ => ?_
  cases arena.flaw? roots <;>
    simp [throw, throwThe, MonadExceptOf.throw, pure, Except.pure, eq_comm]

/-- Dialogs become exactly the graphs that hold them as they are and are sound. -/
theorem ofDialogs_eq_ok_iff {dialogs : List Dialog} {roots : List DialogId} {g : Graph} :
    ofDialogs dialogs roots = .ok g ↔
      g.dialogs.Lists dialogs ∧ g.roots = roots ∧ g.dialogs.IsSound g.roots := by
  rw [ofDialogs_eq_ok_iff_flaw?]
  simp only [Arena.foldlM_add_eq_ok_iff, Arena.flaw?_eq_none_iff,
    Arena.missingDestination?_eq_none_iff]
  constructor
  · rintro ⟨arena, ⟨nonneg, -, -, lists⟩, ⟨rooted, linked, loopFree⟩, rfl⟩
    have lists : arena.Lists dialogs := lists
    have keyed {id : DialogId} {d : Dialog} (found : arena.get? id = some d) : d.id = id :=
      (lists.get?_eq_some_iff.mp found).2
    refine ⟨lists, rfl, keyed, fun present => ?_, fun {root} => rooted root,
      fun {owner destination id} => linked owner destination id, loopFree⟩
    obtain ⟨d, listed, rfl⟩ := lists.mem_iff.mp present
    exact nonneg d listed
  · rintro ⟨lists, rfl, sound⟩
    have story := (Arena.isStory_iff_isSound lists).mpr sound
    refine ⟨g.dialogs, ⟨story.nonneg, story.distinct, fun d _ => ?_, lists⟩,
      ⟨fun _ => sound.rooted, fun _ _ _ => sound.linked, sound.loopFree⟩, rfl⟩
    exact List.not_mem_nil

/-! ## Stories and graphs -/

theorem isStory_of_ofDialogs {dialogs : List Dialog} {roots : List DialogId} {g : Graph}
    (made : ofDialogs dialogs roots = .ok g) : IsStory dialogs roots := by
  obtain ⟨lists, rfl, sound⟩ := ofDialogs_eq_ok_iff.mp made
  exact (Arena.isStory_iff_isSound lists).mpr sound

theorem exists_ofDialogs_of_isStory {dialogs : List Dialog} {roots : List DialogId}
    (story : IsStory dialogs roots) : ∃ g, ofDialogs dialogs roots = .ok g := by
  obtain ⟨arena, lists⟩ := Arena.lists_of_nodup story.distinct
  exact ⟨⟨arena, roots⟩, ofDialogs_eq_ok_iff.mpr
    ⟨lists, rfl, (Arena.isStory_iff_isSound lists).mp story⟩⟩

/-- A story in which two ways meet again, and from there a redirection leads back to its
beginning. -/
def diamond : List Dialog :=
  let option (destination : Destination) := { (default : DialogOption) with destination }
  let dialog (id : DialogId) (destinations : List Destination) :=
    { (default : Dialog) with id, options := destinations.map option }
  [dialog 0 [.dialog 1, .dialog 2], dialog 1 [.dialog 3], dialog 2 [.dialog 3],
    dialog 3 [.redirect 0, .ending]]

theorem lt_of_ownsAmong_diamond {owner owned : DialogId} (owns : OwnsAmong diamond owner owned) :
    owner < owned := by
  have rises : ∀ d ∈ diamond, ∀ option ∈ d.options,
      option.destination.owned?.all (d.id < ·) = true := by decide
  obtain ⟨d, listed, rfl, option, offered, leads⟩ := owns
  have rise := rises d listed option offered
  rw [leads] at rise
  exact of_decide_eq_true rise

theorem isStory_diamond : IsStory diamond [0] := by
  -- Ownership leads to greater ids only, so no path of it comes back.
  have climbs {owner owned : DialogId} (path : TransGen (OwnsAmong diamond) owner owned) :
      owner < owned := by
    induction path with
    | single owns => exact lt_of_ownsAmong_diamond owns
    | tail _ owns ih => exact Int32.lt_trans ih (lt_of_ownsAmong_diamond owns)
  have present : ∀ d ∈ diamond, ∀ option ∈ d.options,
      option.destination.id?.all (· ∈ diamond.map Dialog.id) = true := by decide
  refine ⟨by decide, by decide, fun root listed => ?_, ?_, fun d _ loop => ?_⟩
  · obtain rfl := List.mem_singleton.mp listed
    exact ⟨_, List.mem_cons_self, rfl⟩
  · intro d listed option offered id leads
    have known := present d listed option offered
    rw [Destination.id?_eq_some_iff.mpr leads] at known
    exact List.mem_map.mp (of_decide_eq_true known)
  · exact Int32.lt_irrefl (climbs loop)

/-- Dialogs make a graph exactly when they are a story, and the graph tells it unchanged. -/
theorem ofDialogs_isOk_iff_isStory (dialogs : List Dialog) (roots : List DialogId) :
    ((∃ g, ofDialogs dialogs roots = .ok g) ↔ IsStory dialogs roots) ∧
      ∀ g, ofDialogs dialogs roots = .ok g → g.toList = dialogs ∧ g.roots = roots := by
  refine ⟨⟨?_, fun story => ?_⟩, fun g made => ?_⟩
  · rintro ⟨g, made⟩
    obtain ⟨lists, rfl, sound⟩ := ofDialogs_eq_ok_iff.mp made
    exact (Arena.isStory_iff_isSound lists).mpr sound
  · obtain ⟨arena, lists⟩ := Arena.lists_of_nodup story.distinct
    have sound := (Arena.isStory_iff_isSound lists).mp story
    exact ⟨⟨arena, roots⟩, ofDialogs_eq_ok_iff.mpr ⟨lists, rfl, sound⟩⟩
  · obtain ⟨lists, sameRoots, -⟩ := ofDialogs_eq_ok_iff.mp made
    exact ⟨lists.values_eq, sameRoots⟩

theorem ofDialogs_diamond :
    ∃ g, ofDialogs diamond [0] = .ok g ∧ g.toList = diamond ∧ g.roots = [0] := by
  obtain ⟨accepts, unchanged⟩ := ofDialogs_isOk_iff_isStory diamond [0]
  obtain ⟨g, made⟩ := accepts.mpr isStory_diamond
  exact ⟨g, made, unchanged g made⟩

end Graph

end Parley
