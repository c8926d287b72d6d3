/-
# Redirections and structure

Redirections close the loops of a story, but they do not shape it. Two lists of dialogs are
wired alike when they have the same ids in the same order and each dialog owns the same
dialogs in the same order; where their other options lead, and how many of those there are,
may differ. As long as redirections lead to dialogs that are there, such lists are accepted or
refused together, with the same flaw, and the stories made of them have the same chains, and a
search finds the same ids in them.
-/

import Parley.Proofs.Rearranging

namespace Parley

/-- Two dialogs have the same id, and their options own the same dialogs in the same order. -/
structure Dialog.OwnsAlike (a b : Dialog) : Prop where
  id : a.id = b.id
  ownedIds : a.ownedIds = b.ownedIds

/-- Among some dialogs, every redirection leads to one of them. -/
def RedirectsWithin (dialogs : List Dialog) : Prop :=
  ∀ d ∈ dialogs, ∀ option ∈ d.options, ∀ id, option.destination = .redirect id →
    ∃ next ∈ dialogs, next.id = id

/-- Two lists of dialogs that differ at most in their endings and redirections, as far as their
wiring goes. -/
structure WiredAlike (dialogs others : List Dialog) : Prop where
  owned : List.Forall₂ Dialog.OwnsAlike dialogs others
  within : RedirectsWithin dialogs
  within' : RedirectsWithin others

namespace Arena

/-! ## Arenas that are wired alike -/

/-- Two arenas hold dialogs that own alike under the same ids, in the same order. -/
def OwnsAlike (arena other : Arena) : Prop :=
  List.Forall₂ (fun a b => a.1 = b.1 ∧ a.2.OwnsAlike b.2) arena.entries other.entries

/-- Every redirection in an arena leads to a dialog of the arena. -/
def RedirectsInside (arena : Arena) : Prop :=
  ∀ d ∈ arena.values, ∀ option ∈ d.options, ∀ id, option.destination = .redirect id → id ∈ arena

theorem redirectsInside_of_lists {arena : Arena} {dialogs : List Dialog}
    (lists : arena.Lists dialogs) (within : RedirectsWithin dialogs) : arena.RedirectsInside := by
  intro d listed option offered id leads
  rw [lists.values_eq] at listed
  exact lists.mem_iff.mpr (within d listed option offered id leads)

namespace OwnsAlike

variable {arena other : Arena} (alike : arena.OwnsAlike other)

include alike

theorem keys_eq : arena.keys = other.keys := by
  unfold OwnsAlike at alike
  unfold OrderedMap.keys
  generalize arena.entries = entries, other.entries = entries' at alike
  induction alike with
  | nil => rfl
  | cons first _ ih => rw [List.map_cons, List.map_cons, first.1, ih]

theorem mem_iff (id : DialogId) : id ∈ arena ↔ id ∈ other := by
  rw [OrderedMap.mem_iff, OrderedMap.mem_iff, alike.keys_eq]

theorem values_ownsAlike : List.Forall₂ Dialog.OwnsAlike arena.values other.values := by
  unfold OrderedMap.values
  rw [List.forall₂_map_left_iff, List.forall₂_map_right_iff]
  exact alike.imp fun _ _ entry => entry.2

theorem rel_get? (id : DialogId) :
    Option.Rel Dialog.OwnsAlike (arena.get? id) (other.get? id) := by
  unfold OwnsAlike at alike
  unfold OrderedMap.get?
  generalize arena.entries = entries, other.entries = entries' at alike
  induction alike with
  | nil => exact .none
  | @cons entry entry' _ _ first _ ih =>
      rw [List.lookup_cons, List.lookup_cons, first.1]
      cases id == entry'.1 with
      | true => exact .some first.2
      | false => exact ih

theorem ownedIds_eq (id : DialogId) : arena.ownedIds id = other.ownedIds id := by
  have found := alike.rel_get? id
  unfold ownedIds
  generalize arena.get? id = here, other.get? id = there at found
  cases found with
  | none => rfl
  | some same => exact same.ownedIds

end OwnsAlike

/-! ## The checks -/

/-- The search for loops looks at nothing but what is owned. -/
theorem finish_congr {arena other : Arena} (owned : ∀ id, arena.ownedIds id = other.ownedIds id)
    (path pending finished : List DialogId) :
    arena.finish path pending finished = other.finish path pending finished := by
  fun_induction finish arena path pending finished with
  | case1 => rw [finish]
  | case2 path id rest finished on => rw [finish, if_pos on]
  | case3 path id rest finished off known ih => rw [finish, if_neg off, if_pos known, ih]
  | case4 path id rest finished off unknown looping below ih =>
      rw [finish, if_neg off, if_neg unknown, ← owned, ← ih, below]
  | case5 path id rest finished off unknown done below inner outer =>
      rw [finish, if_neg off, if_neg unknown, ← owned, ← inner, below, outer]

theorem findSome?_congr {α β : Type} {f g : α → Option β} {l : List α}
    (same : ∀ a ∈ l, f a = g a) : l.findSome? f = l.findSome? g := by
  induction l with
  | nil => rfl
  | cons a rest ih =>
      rw [List.forall_mem_cons] at same
      rw [List.findSome?_cons, List.findSome?_cons, same.1, ih same.2]

theorem findSome?_filterMap {α β γ : Type} (f : α → Option β) (g : β → Option γ) (l : List α) :
    (l.filterMap f).findSome? g = l.findSome? fun a => (f a).bind g := by
  induction l with
  | nil => rfl
  | cons a rest ih =>
      rw [List.filterMap_cons, List.findSome?_cons]
      cases f a with
      | none => exact ih
      | some b => rw [List.findSome?_cons, ih, Option.bind_some]

/-- Where redirections lead to dialogs that are there, a destination that is missing is
owned. -/
theorem missingDestination?_eq {arena : Arena} (inside : arena.RedirectsInside) :
    arena.missingDestination? =
      arena.values.findSome? fun d =>
        d.ownedIds.findSome? fun id => if id ∈ arena then none else some (d.id, id) := by
  unfold missingDestination?
  refine findSome?_congr fun d listed => ?_
  unfold Dialog.ownedIds
  rw [findSome?_filterMap]
  refine findSome?_congr fun option offered => ?_
  cases leads : option.destination with
  | ending => rfl
  | dialog id => rfl
  | redirect id =>
      have there := inside d listed option offered id leads
      simp [Destination.id?, Destination.owned?, there]

theorem OwnsAlike.missingDestination?_eq {arena other : Arena} (alike : arena.OwnsAlike other)
    (inside : arena.RedirectsInside) (inside' : other.RedirectsInside) :
    arena.missingDestination? = other.missingDestination? := by
  rw [Arena.missingDestination?_eq inside, Arena.missingDestination?_eq inside']
  have values := alike.values_ownsAlike
  generalize arena.values = dialogs, other.values = others at values
  induction values with
  | nil => rfl
  | cons first _ ih =>
      rw [List.findSome?_cons, List.findSome?_cons, ih, first.id, first.ownedIds]
      simp only [alike.mem_iff]

theorem OwnsAlike.flaw?_eq {arena other : Arena} (alike : arena.OwnsAlike other)
    (inside : arena.RedirectsInside) (inside' : other.RedirectsInside) (roots : List DialogId) :
    arena.flaw? roots = other.flaw? roots := by
  unfold flaw?
  rw [alike.missingDestination?_eq inside inside', alike.keys_eq, finish_congr alike.ownedIds_eq]
  simp only [alike.mem_iff]

/-- Dialogs that own alike are added to arenas that do alike: both fail for the same reason, or
both arenas grow and still own alike. -/
theorem OwnsAlike.foldlM_add {dialogs others : List Dialog}
    (owned : List.Forall₂ Dialog.OwnsAlike dialogs others) {arena other : Arena}
    (alike : arena.OwnsAlike other) :
    (∃ flaw, dialogs.foldlM add arena = .error flaw ∧ others.foldlM add other = .error flaw) ∨
      ∃ grown grown', dialogs.foldlM add arena = .ok grown ∧
        others.foldlM add other = .ok grown' ∧ grown.OwnsAlike grown' := by
  induction owned generalizing arena other with
  | nil => exact Or.inr ⟨arena, other, rfl, rfl, alike⟩
  | @cons d e _ _ first _ ih =>
      rw [List.foldlM_cons, List.foldlM_cons]
      by_cases negative : d.id < 0
      · have negative' : e.id < 0 := first.id ▸ negative
        rw [add, add, if_pos negative, if_pos negative', first.id]
        exact Or.inl ⟨_, rfl, rfl⟩
      · have negative' : ¬ e.id < 0 := first.id ▸ negative
        by_cases present : d.id ∈ arena
        · have present' : e.id ∈ other := first.id ▸ (alike.mem_iff d.id).mp present
          rw [add, add, if_neg negative, if_neg negative', dif_pos present, dif_pos present',
            first.id]
          exact Or.inl ⟨_, rfl, rfl⟩
        · have present' : e.id ∉ other := first.id ▸ mt (alike.mem_iff d.id).mpr present
          rw [add, add, if_neg negative, if_neg negative', dif_neg present, dif_neg present']
          refine ih ?_
          show List.Forall₂ _ (arena.entries ++ [(d.id, d)]) (other.entries ++ [(e.id, e)])
          exact List.rel_append alike (.cons ⟨first.id, first⟩ .nil)

end Arena

namespace Graph

/-! ## Stories that are wired alike -/

/-- Two stories are the same to all that goes by what dialogs own: their chains, the dialogs
that an option may redirect to, and the ids that a search finds. -/
structure SameStructure (g h : Graph) : Prop where
  chained : ∀ root, g.chain root = h.chain root
  candidates : ∀ root owner, g.redirectCandidates root owner = h.redirectCandidates root owner
  found : ∀ id, (g.find? id).map Dialog.id = (h.find? id).map Dialog.id

theorem sameStructure_of_ownsAlike {g h : Graph} (alike : g.dialogs.OwnsAlike h.dialogs)
    (roots : g.roots = h.roots) : g.SameStructure h := by
  have chained (root : DialogId) : g.chain root = h.chain root := by
    unfold chain Arena.chain
    rw [Arena.walk_congr alike.ownedIds_eq]
    simp only [alike.mem_iff]
  refine ⟨chained, fun root owner => ?_, fun id => ?_⟩
  · unfold redirectCandidates
    rw [chained]
  · unfold find?
    rw [List.map_findSome?, List.map_findSome?, Arena.walk_congr alike.ownedIds_eq, roots]
    congr 1
    funext met
    have same : Option.Rel Dialog.OwnsAlike (g.get? met) (h.get? met) := alike.rel_get? met
    show ((g.get? met).filter _).map _ = ((h.get? met).filter _).map _
    generalize g.get? met = here, h.get? met = there at same
    cases same with
    | none => rfl
    | some same =>
        rw [Option.filter_some, Option.filter_some, same.id]
        split
        · rw [Option.map_some, Option.map_some, same.id]
        · rfl

/-- However the redirections of a story are rewired: its dialogs are refused for the same flaw,
or accepted alike and then have the same structure. -/
theorem sameStructure_of_wiredAlike {dialogs others : List Dialog}
    (alike : WiredAlike dialogs others) (roots : List DialogId) :
    (∃ flaw, ofDialogs dialogs roots = .error flaw ∧ ofDialogs others roots = .error flaw) ∨
      ∃ g h, ofDialogs dialogs roots = .ok g ∧ ofDialogs others roots = .ok h ∧
        g.SameStructure h := by
  have start : (∅ : Arena).OwnsAlike ∅ := .nil
  rcases start.foldlM_add alike.owned with
    ⟨flaw, refused, refused'⟩ | ⟨arena, other, added, added', same⟩
  · exact Or.inl
      ⟨flaw, ofDialogs_of_not_added refused roots, ofDialogs_of_not_added refused' roots⟩
  · have inside : arena.RedirectsInside :=
      Arena.redirectsInside_of_lists (Arena.foldlM_add_eq_ok_iff.mp added).2.2.2 alike.within
    have inside' : other.RedirectsInside :=
      Arena.redirectsInside_of_lists (Arena.foldlM_add_eq_ok_iff.mp added').2.2.2 alike.within'
    rw [ofDialogs_of_added added, ofDialogs_of_added added', same.flaw?_eq inside inside']
    cases other.flaw? roots with
    | some flaw => exact Or.inl ⟨flaw, rfl, rfl⟩
    | none => exact Or.inr ⟨_, _, rfl, rfl, sameStructure_of_ownsAlike same rfl⟩

/-- Two dialogs of which the second goes back to the first or ends. -/
def roundTrip : List Dialog :=
  [{ (default : Dialog) with
      options :=
        [{ (default : DialogOption) with destination := .dialog 1 },
          { (default : DialogOption) with destination := .redirect 0 }] },
    { (default : Dialog) with
      id := 1
      options :=
        [{ (default : DialogOption) with destination := .redirect 0 },
          { (default : DialogOption) with destination := .ending }] }]

/-- The same two dialogs, with redirections to the second in all places but one. -/
def roundTripRewired : List Dialog :=
  [{ (default : Dialog) with
      options :=
        [{ (default : DialogOption) with destination := .redirect 1 },
          { (default : DialogOption) with destination := .redirect 1 },
          { (default : DialogOption) with destination := .dialog 1 }] },
    { (default : Dialog) with
      id := 1
      options := [{ (default : DialogOption) with destination := .redirect 1 }] }]

theorem redirectsWithin_of_all {dialogs : List Dialog}
    (inside : ∀ d ∈ dialogs, ∀ option ∈ d.options,
      option.destination.id?.all (· ∈ dialogs.map Dialog.id) = true) :
    RedirectsWithin dialogs := by
  intro d listed option offered id leads
  have known := inside d listed option offered
  rw [leads] at known
  exact List.mem_map.mp (of_decide_eq_true known)

/-- Rewired, the round trip keeps its structure, though the first screen offers other ways on. A
third root that is missing is found in both. -/
theorem sameStructure_roundTrip :
    WiredAlike roundTrip roundTripRewired ∧ roundTrip ≠ roundTripRewired ∧
      (∃ g h, ofDialogs roundTrip [1, 0] = .ok g ∧ ofDialogs roundTripRewired [1, 0] = .ok h ∧
        g.SameStructure h) ∧
      ofDialogs roundTrip [1, 0, 7] = .error (.unknownRoot 7) ∧
      ofDialogs roundTripRewired [1, 0, 7] = .error (.unknownRoot 7) := by
  have alike : WiredAlike roundTrip roundTripRewired :=
    ⟨.cons ⟨rfl, rfl⟩ (.cons ⟨rfl, rfl⟩ .nil), redirectsWithin_of_all (by decide),
      redirectsWithin_of_all (by decide)⟩
  have refused : ofDialogs roundTrip [1, 0, 7] = .error (.unknownRoot 7) := by cbv
  refine ⟨alike, by decide, ?_, refused, ?_⟩
  · rcases sameStructure_of_wiredAlike alike [1, 0] with ⟨flaw, refused, -⟩ | accepted
    · have fine : (ofDialogs roundTrip [1, 0]).isOk = true := by cbv
      rw [refused] at fine
      cases fine
    · exact accepted
  · rcases sameStructure_of_wiredAlike alike [1, 0, 7] with ⟨flaw, found, found'⟩ | accepted
    · rw [refused] at found
      cases found
      exact found'
    · obtain ⟨g, h, made, -⟩ := accepted
      rw [refused] at made
      cases made

end Graph

end Parley
