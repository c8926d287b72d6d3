/-
# What is picked from a list of topics

A list of topics names roots that may be shown, and each of its entries opens: picking it
brings the screen of that root, under the title and the tag of the entry, as long as the cast
has not changed.

A pick is not held against the list, though. It is sought in the whole story, so that any
dialog opens that can be reached through ownership and may be shown, even if no root on the way
to it may be. Only roots can be picked exactly where no other dialog is open in this way.
-/

import Mathlib
import Parley.Proofs.Engine.Effects
import Parley.Proofs.Engine.Topics

namespace Parley

variable {N P W : Type} [Collaborator N] [Collaborator P] [WorldCollaborator W]

namespace Traced

variable {α β : Type}

@[simp] theorem remarks_pure (a : α) : (pure a : Traced α).remarks = [] := rfl

@[simp] theorem remarks_remark (r : Remark) : (remark r).remarks = [r] := rfl

@[simp] theorem remarks_bind (x : Traced α) (f : α → Traced β) :
    (x >>= f).remarks = x.remarks ++ (f x.value).remarks := by
  simp [remarks]

theorem OnlyAsks.remarks_eq_nil {x : Traced α} {cast : Cast N P W} (asks : x.OnlyAsks cast) :
    x.remarks = [] := by
  apply List.filterMap_eq_nil_iff.mpr
  intro event happened
  obtain ⟨side, condition, rfl⟩ := asks event happened
  rfl

end Traced

/-- A dialog is open to a pick: it can be reached through ownership and may be shown. Whether the
dialogs on the way to it may be shown does not matter. -/
structure Graph.IsOpen (g : Graph) (cast : Cast N P W) (d : Dialog) : Prop where
  reached : g.Reached d.id
  told : g.get? d.id = some d
  admitted : cast.Admits d

theorem Graph.isOpen_of_mem_rootDialogs {g : Graph} (sound : g.dialogs.IsSound g.roots)
    {cast : Cast N P W} {d : Dialog} (rooted : d ∈ g.rootDialogs) (admitted : cast.Admits d) :
    g.IsOpen cast d := by
  obtain ⟨listed, found⟩ := (mem_rootDialogs_iff sound).mp rooted
  exact ⟨⟨d.id, listed, .refl⟩, found, admitted⟩

namespace Engine

/-- A turn brings a screen and does nothing else: the cast stays as it is, nothing is handed out
and nothing is remarked. -/
structure Brings (cast : Cast N P W) (screen : Screen) (turn : Traced (Turn N P W)) : Prop where
  value : turn.value = ⟨.ok (some screen), cast⟩
  unremarked : turn.remarks = []
  idle : turn.HandsOutNothing

/-- A turn refuses a pick: there is no screen, the pick is remarked as invalid, and nothing else
happens to the cast than that it may be asked. -/
structure RefusesPick (cast : Cast N P W) (picked : DialogId) (turn : Traced (Turn N P W)) :
    Prop where
  value : turn.value = ⟨.ok none, cast⟩
  remarked : turn.remarks = [.invalidSelection picked]
  idle : turn.HandsOutNothing

/-- Only roots can be picked from a list of topics: whatever brings a screen is a root that may
be shown, and every other pick is refused. -/
structure PicksRoots (engine : Engine) (g : Graph) (cast : Cast N P W) (language : Language) :
    Prop where
  shown : ∀ picked screen,
    (engine.advance cast Screen.topicListId picked language).value.outcome = .ok (some screen) →
      ∃ d ∈ g.rootDialogs, d.id = picked ∧ cast.Admits d
  refused : ∀ picked, (¬ ∃ d ∈ g.rootDialogs, d.id = picked ∧ cast.Admits d) →
    RefusesPick cast picked (engine.advance cast Screen.topicListId picked language)

variable {engine : Engine} {g : Graph} {cast : Cast N P W} {language : Language}

theorem idle_advance_topicList (loaded : engine.graph? = some g) (picked : DialogId) :
    (engine.advance cast Screen.topicListId picked language).HandsOutNothing := by
  rw [advance_topicList loaded]
  exact Traced.handsOutNothing_bind (handsOutNothing_select loaded picked)
    (Traced.handsOutNothing_pure _)

theorem remarks_present? (loaded : engine.graph? = some g) (cast : Cast N P W) (d : Dialog)
    (language : Language) : (engine.present? cast d language).remarks = [] :=
  Traced.OnlyAsks.remarks_eq_nil (onlyAsks_present? loaded d)

section Sound

variable (sound : g.dialogs.IsSound g.roots) (loaded : engine.graph? = some g)

include sound loaded

/-- Picking a dialog that is open brings its screen. -/
theorem brings_of_isOpen {d : Dialog} (opened : g.IsOpen cast d) :
    Brings cast (engine.single cast d language).value
      (engine.advance cast Screen.topicListId d.id language) := by
  have found : g.find? d.id = some d :=
    (Graph.find?_eq_some_iff sound).mpr ⟨opened.reached, opened.told⟩
  have shown : (engine.present? cast d language).value =
      some (engine.single cast d language).value := by
    rw [value_present?, if_pos opened.admitted]
  have selects : (engine.select cast g d.id language).value =
        some (engine.single cast d language).value ∧
      (engine.select cast g d.id language).remarks = [] := by
    simp [select, found, shown, remarks_present? loaded]
  refine ⟨?_, ?_, idle_advance_topicList loaded d.id⟩ <;> rw [advance_topicList loaded]
  · simp [selects.1]
  · simp [selects.2]

/-- Any other pick is refused. -/
theorem refusesPick_of_not_isOpen {picked : DialogId}
    (shut : ¬ ∃ d, g.IsOpen cast d ∧ d.id = picked) :
    RefusesPick cast picked (engine.advance cast Screen.topicListId picked language) := by
  have selects : (engine.select cast g picked language).value = none ∧
      (engine.select cast g picked language).remarks = [.invalidSelection picked] := by
    unfold select
    cases found : g.find? picked with
    | none => simp
    | some d =>
        obtain ⟨reached, told⟩ := (Graph.find?_eq_some_iff sound).mp found
        obtain rfl := sound.keyed told
        have refused : (engine.present? cast d language).value = none :=
          value_present?_eq_none_iff.mpr fun admitted => shut ⟨d, ⟨reached, told, admitted⟩, rfl⟩
        simp [refused, remarks_present? loaded]
  refine ⟨?_, ?_, idle_advance_topicList loaded picked⟩ <;> rw [advance_topicList loaded]
  · simp [selects.1]
  · simp [selects.2]

/-! ## Picks that are no roots -/

theorem picksRoots_of_rooted (rooted : ∀ d, g.IsOpen cast d → d ∈ g.rootDialogs) :
    engine.PicksRoots g cast language where
  shown picked screen brought := by
    by_cases opens : ∃ d, g.IsOpen cast d ∧ d.id = picked
    · obtain ⟨d, opened, named⟩ := opens
      exact ⟨d, rooted d opened, named, opened.admitted⟩
    · have refused : RefusesPick cast picked
          (engine.advance cast Screen.topicListId picked language) :=
        refusesPick_of_not_isOpen sound loaded opens
      rw [refused.value] at brought
      cases brought
  refused picked other := by
    apply refusesPick_of_not_isOpen sound loaded
    rintro ⟨d, opened, named⟩
    exact other ⟨d, rooted d opened, named, opened.admitted⟩

theorem rooted_of_picksRoots (picks : engine.PicksRoots g cast language) {d : Dialog}
    (opened : g.IsOpen cast d) : d ∈ g.rootDialogs := by
  have brings : Brings cast (engine.single cast d language).value
      (engine.advance cast Screen.topicListId d.id language) :=
    brings_of_isOpen sound loaded opened
  obtain ⟨root, rooted, named, -⟩ := picks.shown d.id _ (congrArg Turn.outcome brings.value)
  have listed : root.id ∈ g.roots := ((Graph.mem_rootDialogs_iff sound).mp rooted).1
  exact (Graph.mem_rootDialogs_iff sound).mpr ⟨named ▸ listed, opened.told⟩

end Sound

/-- A story whose one root asks for a lamp, and leads to a dialog that asks for nothing. -/
def cellar : Graph where
  dialogs :=
    { entries :=
        [(0, { (default : Dialog) with
            requirements := [⟨.player, ⟨"flag", some "lamp", .none⟩⟩]
            options := [{ (default : DialogOption) with destination := .dialog 1 }] }),
          (1, { (default : Dialog) with id := 1 })]
      nodup := by decide }
  roots := [0]

/-- A pick from a list of topics brings the screen of any dialog that is open, and every other
pick is refused. So only roots can be picked exactly if no other dialog is open. -/
theorem picksRoots_iff_rooted {dialogs : List Dialog} {roots : List DialogId}
    (made : Graph.ofDialogs dialogs roots = .ok g) (loaded : engine.graph? = some g)
    (cast : Cast N P W) (language : Language) :
    (∀ d, g.IsOpen cast d → Brings cast (engine.single cast d language).value
      (engine.advance cast Screen.topicListId d.id language)) ∧
    (∀ picked, (¬ ∃ d, g.IsOpen cast d ∧ d.id = picked) →
      RefusesPick cast picked (engine.advance cast Screen.topicListId picked language)) ∧
    (engine.PicksRoots g cast language ↔ ∀ d, g.IsOpen cast d → d ∈ g.rootDialogs) := by
  obtain ⟨-, -, sound⟩ := Graph.ofDialogs_eq_ok_iff.mp made
  refine ⟨?_, ?_, ?_, picksRoots_of_rooted sound loaded⟩
  · exact fun d => brings_of_isOpen sound loaded
  · exact fun picked => refusesPick_of_not_isOpen sound loaded
  · exact fun picks d => rooted_of_picksRoots sound loaded picks

/-- In the story of two roots only roots can be picked. -/
theorem picksRoots_pair :
    Graph.ofDialogs pair.toList [1, 0] = .ok pair ∧ (telling pair).graph? = some pair ∧
      (telling pair).PicksRoots pair Ledger.Books.empty .english := by
  have made : Graph.ofDialogs pair.toList [1, 0] = .ok pair := by cbv
  have rooted : ∀ d ∈ pair.toList, d ∈ pair.rootDialogs := by decide
  refine ⟨made, rfl, (picksRoots_iff_rooted made rfl _ _).2.2.mpr fun d opened => ?_⟩
  exact rooted d (Graph.mem_toList_of_get?_eq_some opened.told)

/-- Without a lamp the cellar has no topic, and yet picking what lies behind its root brings a
screen, though it is no root. -/
theorem not_picksRoots_cellar :
    Graph.ofDialogs cellar.toList [0] = .ok cellar ∧
      (∀ d ∈ cellar.rootDialogs, d.id ≠ 1 ∧ ¬ (Ledger.Books.empty).Admits d) ∧
      ((telling cellar).topics Ledger.Books.empty .english).value = none ∧
      ((telling cellar).advance Ledger.Books.empty Screen.topicListId 1 .english).value.outcome =
        .ok (some (.single 1 "<missing en text: unnamed>" "<missing en text: unnamed>" "" [])) ∧
      ¬ (telling cellar).PicksRoots cellar Ledger.Books.empty .english := by
  have made : Graph.ofDialogs cellar.toList [0] = .ok cellar := by cbv
  have shut : ∀ d ∈ cellar.rootDialogs, d.id ≠ 1 ∧ ¬ (Ledger.Books.empty).Admits d := by decide
  have brought : ((telling cellar).advance Ledger.Books.empty Screen.topicListId 1
      .english).value.outcome =
        .ok (some (.single 1 "<missing en text: unnamed>" "<missing en text: unnamed>" "" [])) := by
    cbv
  refine ⟨made, shut, by cbv, brought, ?_⟩
  intro picks
  obtain ⟨d, rooted, -, admitted⟩ := picks.shown _ _ brought
  exact (shut d rooted).2 admitted

/-! ## Picks from what was listed -/

/-- A story with two roots, of which the first owns the second. The second is listed twice. -/
def crossroads : Graph where
  dialogs :=
    { entries :=
        [(0, { (default : Dialog) with
            tag := "gate"
            options := [{ (default : DialogOption) with destination := .dialog 1 }] }),
          (1, { (default : Dialog) with id := 1, tag := "well" })]
      nodup := by decide }
  roots := [1, 0, 1]

/-- Whatever begins a conversation can be picked while the cast stays as it is: each entry of a
list of topics brings the screen of its root, under the title and the tag of the entry, and a
single dialog brings its own screen again. -/
theorem picks_bring_topics {dialogs : List Dialog} {roots : List DialogId}
    (made : Graph.ofDialogs dialogs roots = .ok g) (loaded : engine.graph? = some g)
    {screen : Screen} (begun : (engine.topics cast language).value = some screen) :
    (screen.isTopicList = true → ∀ answer ∈ screen.answers,
      ∃ d ∈ g.rootDialogs, d.id = answer.index ∧
        Brings cast (engine.single cast d language).value
          (engine.advance cast Screen.topicListId answer.index language) ∧
        (engine.single cast d language).value.title = answer.text ∧
        (engine.single cast d language).value.tag = answer.tag) ∧
    (screen.isTopicList = false →
      Brings cast screen (engine.advance cast Screen.topicListId screen.id language)) := by
  obtain ⟨-, -, sound⟩ := Graph.ofDialogs_eq_ok_iff.mp made
  have opens (d : Dialog) (rooted : d ∈ g.rootDialogs) (admitted : cast.Admits d) :
      Brings cast (engine.single cast d language).value
        (engine.advance cast Screen.topicListId d.id language) :=
    brings_of_isOpen sound loaded (Graph.isOpen_of_mem_rootDialogs sound rooted admitted)
  rcases topics_eq_screen loaded begun with ⟨d, rooted, admitted, rfl⟩ | rfl
  · refine ⟨fun listed => ?_, fun _ => opens d rooted admitted⟩
    cases listed
  · refine ⟨fun _ answer listed => ?_, fun single => ?_⟩
    · obtain ⟨d, kept, rfl⟩ := List.mem_map.mp listed
      obtain ⟨rooted, admitted⟩ := Graph.mem_admittedRoots_iff.mp kept
      exact ⟨d, rooted, rfl, opens d rooted admitted, rfl, rfl⟩
    · cases single

/-- At the crossroads each of the three entries opens, and where the errand begins with its one
root, that root can be picked as well. -/
theorem picks_bring_topics_at_crossroads :
    (∃ answers, ((telling crossroads).topics Ledger.Books.empty .english).value =
        some (.topics answers) ∧
      answers.map Answer.index = [1, 0, 1] ∧ answers.map Answer.tag = ["well", "gate", "well"] ∧
      ∀ answer ∈ answers, ∃ d ∈ crossroads.rootDialogs, d.id = answer.index ∧ d.tag = answer.tag ∧
        Brings Ledger.Books.empty
          ((telling crossroads).single Ledger.Books.empty d .english).value
          ((telling crossroads).advance Ledger.Books.empty Screen.topicListId answer.index
            .english)) ∧
    ∃ screen, ((telling errand).topics Ledger.Books.empty .english).value = some screen ∧
      screen.id = 0 ∧ Brings Ledger.Books.empty screen
        ((telling errand).advance Ledger.Books.empty Screen.topicListId 0 .english) := by
  let unnamed := "<missing en text: unnamed>"
  have made : Graph.ofDialogs crossroads.toList [1, 0, 1] = .ok crossroads := by cbv
  have listed : ((telling crossroads).topics Ledger.Books.empty .english).value =
      some (.topics [⟨1, unnamed, "well"⟩, ⟨0, unnamed, "gate"⟩, ⟨1, unnamed, "well"⟩]) := by cbv
  have alone : Graph.ofDialogs errand.toList [0] = .ok errand := by cbv
  have begun : ((telling errand).topics Ledger.Books.empty .english).value =
      some (.single 0 unnamed unnamed "" [⟨0, unnamed, ""⟩]) := by cbv
  refine ⟨⟨_, listed, rfl, rfl, fun answer offered => ?_⟩, _, begun, rfl, ?_⟩
  · obtain ⟨d, rooted, named, brings, -, tagged⟩ :=
      (picks_bring_topics made rfl listed).1 rfl answer offered
    exact ⟨d, rooted, named, tagged, brings⟩
  · exact (picks_bring_topics alone rfl begun).2 rfl

end Engine

end Parley
