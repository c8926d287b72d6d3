/-
# How a conversation begins

A conversation begins with nothing, with one root, or with a list of roots, and which of
these it is goes by how many entries of the list of roots the cast admits. This is the
number of dialogs that may be shown as long as none of them is listed twice. A story may
list a root twice, though. Then a conversation that could begin with the root itself begins
with a list of topics in which the root stands twice, under one index.
-/

import Mathlib
import Parley.Proofs.Engine.Answers

namespace Parley

variable {N P W : Type} [Collaborator N] [Collaborator P] [WorldCollaborator W]

namespace Graph

/-- The roots that the cast admits, as often as they are listed. -/
def admittedRoots (g : Graph) (cast : Cast N P W) : List Dialog :=
  g.rootDialogs.filter fun d => cast.Admits d

theorem mem_admittedRoots_iff {g : Graph} {cast : Cast N P W} {d : Dialog} :
    d ∈ g.admittedRoots cast ↔ d ∈ g.rootDialogs ∧ cast.Admits d := by
  simp [admittedRoots]

section Sound

variable {g : Graph} (sound : g.dialogs.IsSound g.roots)

include sound

theorem mem_rootDialogs_iff {d : Dialog} :
    d ∈ g.rootDialogs ↔ d.id ∈ g.roots ∧ g.get? d.id = some d := by
  constructor
  · intro rooted
    obtain ⟨root, listed, found⟩ := List.mem_filterMap.mp rooted
    obtain rfl := sound.keyed found
    exact ⟨listed, found⟩
  · rintro ⟨listed, found⟩
    exact List.mem_filterMap.mpr ⟨d.id, listed, found⟩

theorem get?_id_of_mem_rootDialogs {d : Dialog} (rooted : d ∈ g.rootDialogs) :
    g.get? d.id = some d :=
  ((mem_rootDialogs_iff sound).mp rooted).2

/-- Roots that are listed once are dialogs that are listed once. -/
theorem nodup_rootDialogs (distinct : g.roots.Nodup) : g.rootDialogs.Nodup := by
  apply distinct.filterMap
  intro root other d here there
  exact (sound.keyed here).symm.trans (sound.keyed there)

theorem nodup_map_id_admittedRoots {cast : Cast N P W} (distinct : (g.admittedRoots cast).Nodup) :
    ((g.admittedRoots cast).map Dialog.id).Nodup := by
  apply distinct.map_on
  intro d admitted e other same
  have here := get?_id_of_mem_rootDialogs sound (mem_admittedRoots_iff.mp admitted).1
  have there := get?_id_of_mem_rootDialogs sound (mem_admittedRoots_iff.mp other).1
  rw [same, there] at here
  exact (Option.some.inj here).symm

end Sound

end Graph

namespace Engine

variable {engine : Engine} {g : Graph} {cast : Cast N P W} {language : Language}

/-- A conversation begins with each root once: with nothing when no root may be shown, with a
dialog when it alone may be, and otherwise with a list that names each root that may be shown
once, in the order of the roots, each under an index of its own. -/
structure BeginsOnce (engine : Engine) (g : Graph) (cast : Cast N P W) (language : Language) :
    Prop where
  nothing : (∀ d ∈ g.rootDialogs, ¬ cast.Admits d) → (engine.topics cast language).value = none
  alone : ∀ d ∈ g.rootDialogs, cast.Admits d → (∀ e ∈ g.rootDialogs, cast.Admits e → e = d) →
    (engine.topics cast language).value = some (engine.single cast d language).value
  several : ∀ d ∈ g.rootDialogs, ∀ e ∈ g.rootDialogs, cast.Admits d → cast.Admits e → d ≠ e →
    ∃ listed : List Dialog,
      (engine.topics cast language).value = some (.topics (listed.map (engine.topic language))) ∧
        (∀ d, d ∈ listed ↔ d ∈ g.rootDialogs ∧ cast.Admits d) ∧ listed.Nodup ∧
          listed.Sublist g.rootDialogs ∧
            ((listed.map (engine.topic language)).map Answer.index).Nodup

theorem value_topics_of_none (loaded : engine.graph? = some g) (none : g.admittedRoots cast = []) :
    (engine.topics cast language).value = Option.none := by
  unfold Graph.admittedRoots at none
  rw [topics, loaded]
  simp only [Traced.value_bind, Cast.value_admitted, none]
  rfl

theorem value_topics_of_several (loaded : engine.graph? = some g) {d e : Dialog}
    {rest : List Dialog} (several : g.admittedRoots cast = d :: e :: rest) :
    (engine.topics cast language).value =
      some (.topics ((g.admittedRoots cast).map (engine.topic language))) := by
  unfold Graph.admittedRoots at several ⊢
  rw [topics, loaded]
  simp only [Traced.value_bind, Cast.value_admitted, several]
  rfl

theorem map_index_topic (engine : Engine) (language : Language) (ds : List Dialog) :
    (ds.map (engine.topic language)).map Answer.index = ds.map Dialog.id := by
  rw [List.map_map]
  rfl

theorem beginsOnce_of_nodup (sound : g.dialogs.IsSound g.roots) (loaded : engine.graph? = some g)
    (distinct : (g.admittedRoots cast).Nodup) : engine.BeginsOnce g cast language where
  nothing none := by
    apply value_topics_of_none loaded
    apply List.eq_nil_iff_forall_not_mem.mpr
    intro d listed
    obtain ⟨rooted, admitted⟩ := Graph.mem_admittedRoots_iff.mp listed
    exact none d rooted admitted
  alone d rooted admitted unique := by
    have only : g.admittedRoots cast = [d] := by
      apply List.perm_singleton.mp
      apply (List.perm_ext_iff_of_nodup distinct (List.nodup_singleton d)).mpr
      intro e
      rw [Graph.mem_admittedRoots_iff, List.mem_singleton]
      constructor
      · rintro ⟨otherRooted, otherAdmitted⟩
        exact unique e otherRooted otherAdmitted
      · rintro rfl
        exact ⟨rooted, admitted⟩
    exact value_topics_of_only loaded only
  several d rooted e otherRooted admitted otherAdmitted apart := by
    have here := Graph.mem_admittedRoots_iff.mpr ⟨rooted, admitted⟩
    have there := Graph.mem_admittedRoots_iff.mpr ⟨otherRooted, otherAdmitted⟩
    refine ⟨g.admittedRoots cast, ?_, fun _ => Graph.mem_admittedRoots_iff, distinct,
      List.filter_sublist, ?_⟩
    · match listed : g.admittedRoots cast with
      | [] => simp [listed] at here
      | [only] =>
          rw [listed, List.mem_singleton] at here there
          exact absurd (here.trans there.symm) apart
      | _ :: _ :: _ => exact listed ▸ value_topics_of_several loaded listed
    · rw [map_index_topic]
      exact Graph.nodup_map_id_admittedRoots sound distinct

theorem nodup_of_beginsOnce (loaded : engine.graph? = some g)
    (begins : engine.BeginsOnce g cast language) : (g.admittedRoots cast).Nodup := by
  match listed : g.admittedRoots cast with
  | [] => exact List.nodup_nil
  | [d] => exact List.nodup_singleton d
  | d :: e :: rest =>
      have shown : (engine.topics cast language).value =
          some (.topics ((g.admittedRoots cast).map (engine.topic language))) :=
        value_topics_of_several loaded listed
      have first : d ∈ g.admittedRoots cast := by rw [listed]; exact List.mem_cons_self
      obtain ⟨rooted, admitted⟩ := Graph.mem_admittedRoots_iff.mp first
      by_cases unique : ∀ e ∈ g.rootDialogs, cast.Admits e → e = d
      · have alone := begins.alone d rooted admitted unique
        rw [shown] at alone
        cases alone
      · push Not at unique
        obtain ⟨other, otherRooted, otherAdmitted, apart⟩ := unique
        obtain ⟨once, same, -, -, -, distinct⟩ :=
          begins.several d rooted other otherRooted admitted otherAdmitted apart.symm
        rw [shown] at same
        have entries := Screen.topics.inj (Option.some.inj same)
        rw [← entries, map_index_topic] at distinct
        exact listed ▸ distinct.of_map

/-- The books of a player who carries some things. -/
def carrying (things : List String) : Ledger.Books :=
  { Ledger.Books.empty with player := { Ledger.empty .player with flags := things } }

/-- A story that lists its only root twice. -/
def doubled : Graph where
  dialogs := { entries := [(0, default)], nodup := by decide }
  roots := [0, 0]

/-- A story with two roots, the later one first. -/
def pair : Graph where
  dialogs :=
    { entries := [(0, default), (1, { (default : Dialog) with id := 1 })], nodup := by decide }
  roots := [1, 0]

/-- A conversation begins with each root once exactly when no root that may be shown is listed
twice, and so always in a story that lists no root twice. -/
theorem beginsOnce_iff_nodup {dialogs : List Dialog} {roots : List DialogId}
    (made : Graph.ofDialogs dialogs roots = .ok g) (loaded : engine.graph? = some g)
    (cast : Cast N P W) (language : Language) :
    (engine.BeginsOnce g cast language ↔ (g.admittedRoots cast).Nodup) ∧
      (roots.Nodup → engine.BeginsOnce g cast language) := by
  obtain ⟨-, rfl, sound⟩ := Graph.ofDialogs_eq_ok_iff.mp made
  refine ⟨⟨nodup_of_beginsOnce loaded, beginsOnce_of_nodup sound loaded⟩, ?_⟩
  intro distinct
  exact beginsOnce_of_nodup sound loaded ((Graph.nodup_rootDialogs sound distinct).filter _)

theorem beginsOnce_pair :
    Graph.ofDialogs pair.toList [1, 0] = .ok pair ∧ (telling pair).graph? = some pair ∧
      (telling pair).BeginsOnce pair Ledger.Books.empty .english := by
  have made : Graph.ofDialogs pair.toList [1, 0] = .ok pair := by cbv
  exact ⟨made, rfl, (beginsOnce_iff_nodup made rfl _ _).2 (by decide)⟩

/-- In the story that lists its only root twice, the one dialog that may be shown is not shown.
A list of topics is, with this dialog in both places. -/
theorem topics_doubled :
    Graph.ofDialogs doubled.toList [0, 0] = .ok doubled ∧
      (∀ d ∈ doubled.rootDialogs, d = default) ∧ default ∈ doubled.rootDialogs ∧
      (Ledger.Books.empty).Admits default ∧
      ((telling doubled).topics Ledger.Books.empty .english).value =
        some (.topics [⟨0, "<missing en text: unnamed>", ""⟩,
          ⟨0, "<missing en text: unnamed>", ""⟩]) ∧
      ¬ (telling doubled).BeginsOnce doubled Ledger.Books.empty .english := by
  have made : Graph.ofDialogs doubled.toList [0, 0] = .ok doubled := by cbv
  have only : ∀ d ∈ doubled.rootDialogs, d = default := by decide
  have listed : default ∈ doubled.rootDialogs := by decide
  have admitted : (Ledger.Books.empty).Admits default := by decide
  have shown : ((telling doubled).topics Ledger.Books.empty .english).value =
      some (.topics [⟨0, "<missing en text: unnamed>", ""⟩,
        ⟨0, "<missing en text: unnamed>", ""⟩]) := by cbv
  refine ⟨made, only, listed, admitted, shown, ?_⟩
  intro begins
  have alone := begins.alone default listed admitted fun e other _ => only e other
  rw [shown] at alone
  cases alone

end Engine

end Parley
