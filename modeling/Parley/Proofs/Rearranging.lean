/-
# Rearranged stories

The dialogs of a story are listed in some order, and each text lists its languages in some
order. Neither means anything: dialogs are looked up by their ids, and strings by their
languages. This module says what it is for two stories to differ in these orders only, and
that such stories agree on what they own, on what a search finds, and on whether they are
stories at all.

The order in which roots and options are listed does mean something and stays.
-/

import Mathlib
import Parley.Proofs.Search

namespace Parley

open Relation

/-! ## Texts and dialogs -/

namespace LocalizedText

/-- Two texts are the same but for the order in which they list their languages. -/
structure Rearranges (a b : LocalizedText) : Prop where
  description : a.description = b.description
  strings : a.strings.entries.Perm b.strings.entries

theorem rearranges_refl (text : LocalizedText) : text.Rearranges text := ⟨rfl, .refl _⟩

variable {a b : LocalizedText}

theorem Rearranges.symm (same : a.Rearranges b) : b.Rearranges a :=
  ⟨same.description.symm, same.strings.symm⟩

theorem Rearranges.get?_eq (same : a.Rearranges b) (language : Language) :
    a.get? language = b.get? language := by
  ext string
  rw [get?, get?, OrderedMap.get?_eq_some_iff, OrderedMap.get?_eq_some_iff, same.strings.mem_iff]

/-- The order of the languages makes no difference to the string that is shown. -/
theorem Rearranges.resolve_eq (same : a.Rearranges b) (language : Language) (fallback : Fallback)
    (fallbackLanguage : Language) :
    a.resolve language fallback fallbackLanguage =
      b.resolve language fallback fallbackLanguage := by
  unfold resolve placeholder
  rw [same.get?_eq, same.get?_eq, same.description]

end LocalizedText

/-- Two options are the same but for the order of the languages. -/
structure DialogOption.Rearranges (a b : DialogOption) : Prop where
  text : a.text.Rearranges b.text
  tag : a.tag = b.tag
  notifications : a.notifications = b.notifications
  destination : a.destination = b.destination

theorem DialogOption.rearranges_refl (option : DialogOption) : option.Rearranges option :=
  ⟨option.text.rearranges_refl, rfl, rfl, rfl⟩

theorem DialogOption.Rearranges.symm {a b : DialogOption} (same : a.Rearranges b) :
    b.Rearranges a :=
  ⟨same.text.symm, same.tag.symm, same.notifications.symm, same.destination.symm⟩

theorem DialogOption.map_destination_eq {options others : List DialogOption}
    (same : List.Forall₂ Rearranges options others) :
    options.map destination = others.map destination := by
  induction same with
  | nil => rfl
  | cons first _ ih => rw [List.map_cons, List.map_cons, first.destination, ih]

namespace Dialog

/-- Two dialogs are the same but for the order of the languages. -/
structure Rearranges (a b : Dialog) : Prop where
  id : a.id = b.id
  title : a.title.Rearranges b.title
  text : a.text.Rearranges b.text
  tag : a.tag = b.tag
  mode : a.mode = b.mode
  requirements : a.requirements = b.requirements
  options : List.Forall₂ DialogOption.Rearranges a.options b.options

theorem rearranges_refl (d : Dialog) : d.Rearranges d where
  id := rfl
  title := d.title.rearranges_refl
  text := d.text.rearranges_refl
  tag := rfl
  mode := rfl
  requirements := rfl
  options := List.forall₂_same.mpr fun option _ => option.rearranges_refl

namespace Rearranges

variable {a b : Dialog} (same : a.Rearranges b)

include same

theorem symm : b.Rearranges a where
  id := same.id.symm
  title := same.title.symm
  text := same.text.symm
  tag := same.tag.symm
  mode := same.mode.symm
  requirements := same.requirements.symm
  options := (same.options.imp fun _ _ option => option.symm).flip

theorem ownedIds_eq : a.ownedIds = b.ownedIds := by
  have owned (d : Dialog) : d.ownedIds =
      (d.options.map DialogOption.destination).filterMap Destination.owned? := by
    rw [List.filterMap_map]
    rfl
  rw [owned, owned, DialogOption.map_destination_eq same.options]

end Rearranges

end Dialog

/-! ## Arenas and graphs -/

/-- What is owned does not depend on how an arena is arranged, and so neither does a walk. -/
theorem Arena.walk_congr {arena other : Arena} (owned : ∀ id, arena.ownedIds id = other.ownedIds id)
    (seen pending : List DialogId) : arena.walk seen pending = other.walk seen pending := by
  fun_induction walk arena seen pending with
  | case1 seen => rw [walk]
  | case2 seen id rest old ih => rw [walk, if_pos old, ih]
  | case3 seen id rest new ih => rw [walk, if_neg new, ih, owned]

/-- Lists of dialogs that are the same but for the order of the dialogs and of the languages. -/
def Rearranged (dialogs others : List Dialog) : Prop :=
  ∃ middle, dialogs.Perm middle ∧ List.Forall₂ Dialog.Rearranges middle others

theorem rearranged_of_perm {dialogs others : List Dialog} (perm : dialogs.Perm others) :
    Rearranged dialogs others :=
  ⟨others, perm, List.forall₂_same.mpr fun d _ => d.rearranges_refl⟩

theorem exists_of_mem_of_forall₂ {α β : Type} {R : α → β → Prop} {l : List α} {m : List β}
    (related : List.Forall₂ R l m) {a : α} (listed : a ∈ l) : ∃ b ∈ m, R a b := by
  induction related with
  | nil => cases listed
  | cons first _ ih =>
      rcases List.mem_cons.mp listed with rfl | later
      · exact ⟨_, List.mem_cons_self, first⟩
      · obtain ⟨b, there, related⟩ := ih later
        exact ⟨b, List.mem_cons_of_mem _ there, related⟩

namespace Rearranged

variable {dialogs others : List Dialog} (rearranged : Rearranged dialogs others)

include rearranged

theorem symm : Rearranged others dialogs := by
  obtain ⟨middle, perm, same⟩ := rearranged
  have back : List.Forall₂ Dialog.Rearranges others middle :=
    (same.imp fun _ _ d => d.symm).flip
  show Comp List.Perm (List.Forall₂ Dialog.Rearranges) others dialogs
  rw [← List.forall₂_comp_perm_eq_perm_comp_forall₂]
  exact ⟨middle, back, perm.symm⟩

theorem exists_of_mem {d : Dialog} (listed : d ∈ dialogs) : ∃ e ∈ others, d.Rearranges e := by
  obtain ⟨middle, perm, same⟩ := rearranged
  exact exists_of_mem_of_forall₂ same (perm.mem_iff.mp listed)

theorem map_id_perm : (dialogs.map Dialog.id).Perm (others.map Dialog.id) := by
  obtain ⟨middle, perm, same⟩ := rearranged
  have ids : middle.map Dialog.id = others.map Dialog.id := by
    clear perm
    induction same with
    | nil => rfl
    | cons first _ ih => rw [List.map_cons, List.map_cons, first.id, ih]
  rw [← ids]
  exact perm.map _

theorem ownsAmong_of_ownsAmong {owner owned : DialogId} (owns : OwnsAmong dialogs owner owned) :
    OwnsAmong others owner owned := by
  obtain ⟨d, listed, rfl, option, offered, leads⟩ := owns
  obtain ⟨e, there, same⟩ := rearranged.exists_of_mem listed
  obtain ⟨other, offered', kept⟩ := exists_of_mem_of_forall₂ same.options offered
  exact ⟨e, there, same.id.symm, other, offered', kept.destination.symm.trans leads⟩

/-- A story that is rearranged is a story. -/
theorem isStory {roots : List DialogId} (story : IsStory dialogs roots) :
    IsStory others roots := by
  have back := rearranged.symm
  refine ⟨?_, rearranged.map_id_perm.nodup_iff.mp story.distinct, ?_, ?_, ?_⟩
  · intro e listed
    obtain ⟨d, there, same⟩ := back.exists_of_mem listed
    rw [same.id]
    exact story.nonneg d there
  · intro root rooted
    obtain ⟨d, there, rfl⟩ := story.rooted root rooted
    obtain ⟨e, listed, same⟩ := rearranged.exists_of_mem there
    exact ⟨e, listed, same.id.symm⟩
  · intro e listed option offered id leads
    obtain ⟨d, there, same⟩ := back.exists_of_mem listed
    obtain ⟨other, offered', kept⟩ := exists_of_mem_of_forall₂ same.options offered
    rw [kept.destination] at leads
    obtain ⟨next, told, rfl⟩ := story.linked d there other offered' id leads
    obtain ⟨next', told', same'⟩ := rearranged.exists_of_mem told
    exact ⟨next', told', same'.id.symm⟩
  · intro e listed loop
    obtain ⟨d, there, same⟩ := back.exists_of_mem listed
    rw [same.id] at loop
    exact story.loopFree d there
      (TransGen.mono (fun _ _ owns => back.ownsAmong_of_ownsAmong owns) _ _ loop)

end Rearranged

namespace Graph

theorem exists_ofDialogs_of_rearranged {dialogs others : List Dialog} {roots : List DialogId}
    (rearranged : Rearranged dialogs others) (made : ∃ g, ofDialogs dialogs roots = .ok g) :
    ∃ h, ofDialogs others roots = .ok h := by
  obtain ⟨g, made⟩ := made
  exact exists_ofDialogs_of_isStory (rearranged.isStory (isStory_of_ofDialogs made))

/-- Under each id, rearranged stories hold the same dialog. -/
theorem rel_get?_of_rearranged {dialogs others : List Dialog} {roots : List DialogId} {g h : Graph}
    (rearranged : Rearranged dialogs others) (made : ofDialogs dialogs roots = .ok g)
    (remade : ofDialogs others roots = .ok h) (id : DialogId) :
    Option.Rel Dialog.Rearranges (g.get? id) (h.get? id) := by
  obtain ⟨lists, -, -⟩ := ofDialogs_eq_ok_iff.mp made
  obtain ⟨lists', -, -⟩ := ofDialogs_eq_ok_iff.mp remade
  cases here : g.get? id with
  | none =>
      cases there : h.get? id with
      | none => exact .none
      | some e =>
          obtain ⟨listed, rfl⟩ := lists'.get?_eq_some_iff.mp there
          obtain ⟨d, told, same⟩ := rearranged.symm.exists_of_mem listed
          have found : g.get? e.id = some d := lists.get?_eq_some_iff.mpr ⟨told, same.id.symm⟩
          rw [here] at found
          cases found
  | some d =>
      obtain ⟨listed, rfl⟩ := lists.get?_eq_some_iff.mp here
      obtain ⟨e, told, same⟩ := rearranged.exists_of_mem listed
      have found : h.get? d.id = some e := lists'.get?_eq_some_iff.mpr ⟨told, same.id.symm⟩
      rw [found]
      exact .some same

end Graph

end Parley
