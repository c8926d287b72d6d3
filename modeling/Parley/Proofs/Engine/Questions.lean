/-
# What is asked at the beginning

A conversation begins with questions, and which ones can be read off the story and the verdicts.
Every root is asked about, in order and as often as it is listed, and each time its requirements
are put to their sides up to the first that decides. If one entry of the list may be shown and no
other, the dialogs that its options lead to are asked about in the same way. Nothing else happens.

The record of the questions is complete. A cast that gives the same answers to them is told the
same beginning, whatever it would answer to any other question.
-/

import Mathlib
import Parley.Proofs.Engine.Effects
import Parley.Proofs.Engine.Topics

namespace Parley

variable {N P W N' P' W' : Type} [Collaborator N] [Collaborator P] [WorldCollaborator W]
  [Collaborator N'] [Collaborator P'] [WorldCollaborator W']

/-! ## Questions about a dialog -/

namespace Cast

/-- A requirement decides on its gate: it fails where all must hold, or holds where any suffices. -/
def Decides (cast : Cast N P W) (mode : Mode) (r : Requirement) : Prop :=
  match mode with
  | .all => cast.meets r.side r.condition = false
  | .any => cast.meets r.side r.condition = true

instance (cast : Cast N P W) (mode : Mode) : DecidablePred (cast.Decides mode) := fun _ =>
  match mode with
  | .all => inferInstanceAs (Decidable (_ = false))
  | .any => inferInstanceAs (Decidable (_ = true))

/-- The requirements up to and including the first that decides, or all of them if none does. -/
def examined (cast : Cast N P W) (mode : Mode) (requirements : List Requirement) :
    List Requirement :=
  requirements.takeWhile (fun r => ¬ cast.Decides mode r) ++
    (requirements.find? fun r => cast.Decides mode r).toList

/-- A requirement is put to the side that it names, which gives its verdict. -/
def question (cast : Cast N P W) (r : Requirement) : Event :=
  .asked r.side r.condition (cast.meets r.side r.condition)

/-- What is asked about a dialog. -/
def questions (cast : Cast N P W) (d : Dialog) : List Event :=
  (cast.examined d.mode d.requirements).map cast.question

variable {cast : Cast N P W}

theorem decides_iff {mode : Mode} {r : Requirement} :
    cast.Decides mode r ↔ cast.meets r.side r.condition = mode.decisive := by
  cases mode <;> exact Iff.rfl

theorem events_passes (cast : Cast N P W) (mode : Mode) (requirements : List Requirement) :
    (cast.passes mode requirements).events =
      (cast.examined mode requirements).map cast.question := by
  induction requirements with
  | nil => rfl
  | cons r rest ih =>
      have first : (cast.passes mode (r :: rest)).events = cast.question r ::
          (if cast.Decides mode r then [] else (cast.passes mode rest).events) := by
        rw [passes, Traced.events_bind]
        show [cast.question r] ++ _ = _
        simp only [decides_iff]
        by_cases decides : cast.meets r.side r.condition = mode.decisive <;> simp [ask, decides]
      rw [first, ih]
      by_cases decides : cast.Decides mode r <;> simp [examined, decides]

theorem events_admitted (cast : Cast N P W) (dialogs : List Dialog) :
    (cast.admitted dialogs).events = dialogs.flatMap cast.questions := by
  induction dialogs with
  | nil => rfl
  | cons d rest ih =>
      have here : (cast.admits d).events = cast.questions d := cast.events_passes _ _
      simp only [admitted, Traced.events_bind, Traced.events_pure, List.append_nil, here, ih,
        List.flatMap_cons]

end Cast

/-! ## Questions at the beginning -/

/-- The dialogs that are asked about at the beginning: every root as it is listed, and if one entry
may be shown and no other, the dialogs that its options lead to. -/
def Graph.askedAbout (g : Graph) (cast : Cast N P W) : List Dialog :=
  g.rootDialogs ++
    match g.admittedRoots cast with
    | [d] => d.options.filterMap g.next?
    | _ => []

namespace Engine

variable {engine : Engine} {g : Graph} {cast : Cast N P W} {language : Language}

theorem events_offers (loaded : engine.graph? = some g) (option : DialogOption) :
    (engine.offers cast option).events = (g.next? option).toList.flatMap cast.questions := by
  unfold offers Graph.next?
  cases option.destination.id? with
  | none => rfl
  | some id =>
      simp only [loaded, Option.bind_some]
      cases g.get? id with
      | none => rfl
      | some next => simp [Cast.admits, Cast.events_passes, Cast.questions]

theorem events_answersFrom (loaded : engine.graph? = some g) (position : Nat)
    (options : List DialogOption) :
    (engine.answersFrom cast language position options).events =
      (options.filterMap g.next?).flatMap cast.questions := by
  induction options generalizing position with
  | nil => rfl
  | cons option rest ih =>
      rw [answersFrom, Traced.events_bind, events_offers loaded, Traced.events_bind, ih,
        Traced.events_pure, List.append_nil, List.filterMap_cons]
      cases g.next? option <;> simp

theorem events_single (loaded : engine.graph? = some g) (d : Dialog) :
    (engine.single cast d language).events =
      (d.options.filterMap g.next?).flatMap cast.questions := by
  simp only [single, availableAnswers, loaded, Option.isNone_some, Bool.false_and,
    Bool.false_eq_true, ↓reduceIte]
  rw [Traced.events_bind, Traced.events_bind, events_answersFrom loaded]
  split <;> simp

theorem events_topics (loaded : engine.graph? = some g) :
    (engine.topics cast language).events = (g.askedAbout cast).flatMap cast.questions := by
  have admitted : (cast.admitted g.rootDialogs).value = g.admittedRoots cast :=
    cast.value_admitted _
  rw [topics, loaded]
  simp only [Traced.events_bind, admitted, Cast.events_admitted]
  rw [Graph.askedAbout, List.flatMap_append]
  congr 1
  cases shown : g.admittedRoots cast with
  | nil => rfl
  | cons d others =>
      cases others with
      | nil => simp [events_single loaded]
      | cons => rfl

end Engine

/-! ## Answers that settle the beginning -/

/-- A cast answers every question that was asked on the way as it was answered. -/
def Traced.AnsweredAlike {α : Type} (x : Traced α) (other : Cast N' P' W') : Prop :=
  ∀ side condition verdict, .asked side condition verdict ∈ x.events →
    other.meets side condition = verdict

section Settled

variable {cast : Cast N P W} {other : Cast N' P' W'}

namespace Traced

variable {α β : Type} {x y : Traced α} {f g : α → Traced β}

theorem answeredAlike_bind_iff :
    (x >>= f).AnsweredAlike other ↔ x.AnsweredAlike other ∧ (f x.value).AnsweredAlike other := by
  simp only [AnsweredAlike, events_bind, List.mem_append]
  grind

/-- Runs are the same if they are the same up to a point and from there on. -/
theorem bind_congr_value (first : y = x) (later : g x.value = f x.value) :
    y >>= g = x >>= f := by
  subst first
  simp only [bind, later]

end Traced

open Traced

namespace Cast

theorem passes_congr {mode : Mode} {requirements : List Requirement}
    (alike : (cast.passes mode requirements).AnsweredAlike other) :
    other.passes mode requirements = cast.passes mode requirements := by
  induction requirements with
  | nil => rfl
  | cons r rest ih =>
      obtain ⟨here, later⟩ := answeredAlike_bind_iff.mp alike
      have same : other.ask r = cast.ask r := by
        simp only [ask, here r.side r.condition _ (List.mem_singleton_self _)]
      refine bind_congr_value same ?_
      by_cases decides : (cast.ask r).value = mode.decisive
      · rw [if_pos decides, if_pos decides]
      · rw [if_neg decides] at later
        rw [if_neg decides, if_neg decides, ih later]

theorem admitted_congr {dialogs : List Dialog}
    (alike : (cast.admitted dialogs).AnsweredAlike other) :
    other.admitted dialogs = cast.admitted dialogs := by
  induction dialogs with
  | nil => rfl
  | cons d rest ih =>
      obtain ⟨here, others⟩ := answeredAlike_bind_iff.mp alike
      refine bind_congr_value (passes_congr here) ?_
      exact bind_congr_value (ih (answeredAlike_bind_iff.mp others).1) rfl

end Cast

namespace Engine

variable {engine : Engine} {g : Graph} {language : Language}

theorem offers_congr {option : DialogOption}
    (alike : (engine.offers cast option).AnsweredAlike other) :
    engine.offers other option = engine.offers cast option := by
  unfold offers at alike ⊢
  cases leads : option.destination.id? with
  | none => rfl
  | some id =>
      rw [leads] at alike
      dsimp only at alike ⊢
      cases found : engine.graph?.bind (·.get? id) with
      | none => rfl
      | some next =>
          rw [found] at alike
          exact Cast.passes_congr alike

theorem answersFrom_congr {position : Nat} {options : List DialogOption}
    (alike : (engine.answersFrom cast language position options).AnsweredAlike other) :
    engine.answersFrom other language position options =
      engine.answersFrom cast language position options := by
  induction options generalizing position with
  | nil => rfl
  | cons option rest ih =>
      obtain ⟨here, others⟩ := answeredAlike_bind_iff.mp alike
      refine bind_congr_value (offers_congr here) ?_
      exact bind_congr_value (ih (answeredAlike_bind_iff.mp others).1) rfl

theorem single_congr (loaded : engine.graph? = some g) {d : Dialog}
    (alike : (engine.single cast d language).AnsweredAlike other) :
    engine.single other d language = engine.single cast d language := by
  have answers := (answeredAlike_bind_iff.mp alike).1
  refine bind_congr_value ?_ rfl
  simp only [availableAnswers, loaded, Option.isNone_some, Bool.false_and, Bool.false_eq_true,
    ↓reduceIte] at answers ⊢
  exact bind_congr_value (answersFrom_congr (answeredAlike_bind_iff.mp answers).1) rfl

theorem topics_congr (loaded : engine.graph? = some g)
    (alike : (engine.topics cast language).AnsweredAlike other) :
    engine.topics other language = engine.topics cast language := by
  rw [topics, loaded] at alike
  rw [topics, topics, loaded]
  obtain ⟨roots, shown⟩ := answeredAlike_bind_iff.mp alike
  refine bind_congr_value (Cast.admitted_congr roots) ?_
  cases admitted : (cast.admitted g.rootDialogs).value with
  | nil => rfl
  | cons d others =>
      cases others with
      | nil =>
          rw [admitted] at shown
          exact bind_congr_value (single_congr loaded (answeredAlike_bind_iff.mp shown).1) rfl
      | cons => rfl

end Engine

end Settled

/-! ## The beginning -/

section Sound

variable {g : Graph} (sound : g.dialogs.IsSound g.roots)

include sound

/-- Dialogs that are there are found under the ids that name them. -/
theorem Graph.map_id_filterMap_get? {ids : List DialogId} (there : ∀ id ∈ ids, id ∈ g.dialogs) :
    (ids.filterMap g.get?).map Dialog.id = ids := by
  induction ids with
  | nil => rfl
  | cons id rest ih =>
      obtain ⟨d, found⟩ := OrderedMap.mem_iff_exists_get?.mp (there id List.mem_cons_self)
      have first : g.get? id = some d := found
      rw [List.filterMap_cons_some first, List.map_cons, sound.keyed found,
        ih fun other listed => there other (List.mem_cons_of_mem _ listed)]

theorem Graph.map_id_rootDialogs : g.rootDialogs.map Dialog.id = g.roots :=
  Graph.map_id_filterMap_get? sound fun _ => sound.rooted

theorem Graph.map_id_filterMap_next? {d : Dialog} (told : d ∈ g.toList) :
    (d.options.filterMap g.next?).map Dialog.id =
      d.options.filterMap (·.destination.id?) := by
  obtain ⟨owner, found⟩ := OrderedMap.mem_values_iff.mp told
  have next : d.options.filterMap g.next? =
      (d.options.filterMap (·.destination.id?)).filterMap g.get? := by
    rw [List.filterMap_filterMap]
    rfl
  rw [next, Graph.map_id_filterMap_get? sound]
  intro id listed
  obtain ⟨option, offered, leads⟩ := List.mem_filterMap.mp listed
  exact sound.linked ⟨d, found, option, offered, rfl⟩ leads

end Sound

namespace Engine

/-- A story with two roots, of which one is listed twice. In the first gate all must hold, and the
second fails. In the other any suffices, and the second holds. -/
def curfew : Graph where
  dialogs :=
    { entries :=
        [(0, { (default : Dialog) with
            requirements :=
              [⟨.world, ⟨"not_flag", some "night", .none⟩⟩, ⟨.player, ⟨"flag", some "key", .none⟩⟩,
                ⟨.npc, ⟨"flag", some "friend", .none⟩⟩] }),
          (1, { (default : Dialog) with
            id := 1
            mode := .any
            requirements :=
              [⟨.npc, ⟨"flag", some "friend", .none⟩⟩, ⟨.player, ⟨"flag", some "lamp", .none⟩⟩,
                ⟨.world, ⟨"flag", some "moon", .none⟩⟩]
            options :=
              [{ (default : DialogOption) with destination := .redirect 0 }, default,
                { (default : DialogOption) with destination := .dialog 2 }] }),
          (2, { (default : Dialog) with
            id := 2
            requirements := [⟨.world, ⟨"flag", some "night", .none⟩⟩] })]
      nodup := by decide }
  roots := [0, 1, 0]

variable {engine : Engine} {g : Graph}

/-- A conversation begins with the questions about every entry of the list of roots, and about the
dialog that each option of a root leads to if this is the only entry that may be shown. Of a dialog
its requirements are asked up to the first that decides, whatever was asked before. No more is done,
and no more is needed: the answers settle how the conversation begins. -/
theorem topics_asks_in_order {dialogs : List Dialog} {roots : List DialogId}
    (made : Graph.ofDialogs dialogs roots = .ok g) (loaded : engine.graph? = some g)
    (cast : Cast N P W) (language : Language) :
    (engine.topics cast language).events = (g.askedAbout cast).flatMap cast.questions ∧
      g.rootDialogs.map Dialog.id = g.roots ∧
      (∀ d ∈ g.toList, (d.options.filterMap g.next?).map Dialog.id =
        d.options.filterMap (·.destination.id?)) ∧
      (∀ d, (cast.admits d).value = true ↔ cast.Admits d) ∧
      (engine.topics cast language).HandsOutNothing ∧
      ∀ other : Cast N' P' W', (engine.topics cast language).AnsweredAlike other →
        engine.topics other language = engine.topics cast language := by
  obtain ⟨-, -, sound⟩ := Graph.ofDialogs_eq_ok_iff.mp made
  have asked : (engine.topics cast language).events = (g.askedAbout cast).flatMap cast.questions :=
    events_topics loaded
  refine ⟨asked, Graph.map_id_rootDialogs sound, fun d => Graph.map_id_filterMap_next? sound,
    fun d => Cast.value_admits_iff, ?_, fun other => topics_congr loaded⟩
  intro n origin refusal? handed
  rw [asked, List.mem_flatMap] at handed
  obtain ⟨d, -, about⟩ := handed
  obtain ⟨r, -, question⟩ := List.mem_map.mp about
  cases question

/-- A player with a lamp is asked about the key each time the first root is listed, and again for
the option of the second root that leads back to it. The friend of the first root and the moon are
never asked about, so a cast where the moon shines is told the same beginning. -/
theorem topics_asks_in_order_at_curfew :
    let night : Condition := ⟨"flag", some "night", .none⟩
    let day : Condition := ⟨"not_flag", some "night", .none⟩
    let key : Condition := ⟨"flag", some "key", .none⟩
    let friend : Condition := ⟨"flag", some "friend", .none⟩
    let lamp : Condition := ⟨"flag", some "lamp", .none⟩
    let first : List Event := [.asked .world day true, .asked .player key false]
    let moonlit : Ledger.Books :=
      { carrying ["lamp"] with world := ⟨{ Ledger.empty .world with flags := ["moon"] }, none⟩ }
    (curfew.askedAbout (carrying ["lamp"])).map Dialog.id = [0, 1, 0, 0, 2] ∧
      ((telling curfew).topics (carrying ["lamp"]) .english).events =
        first ++ [.asked .npc friend false, .asked .player lamp true] ++ first ++
          (first ++ [.asked .world night false]) ∧
      (telling curfew).topics moonlit .english =
        (telling curfew).topics (carrying ["lamp"]) .english := by
  intro night day key friend lamp first moonlit
  have made : Graph.ofDialogs curfew.toList [0, 1, 0] = .ok curfew := by cbv
  have loaded : (telling curfew).graph? = some curfew := rfl
  have settled (other : Ledger.Books) :=
    (topics_asks_in_order made loaded (carrying ["lamp"]) .english).2.2.2.2.2 other
  have asked : ((telling curfew).topics (carrying ["lamp"]) .english).events =
      first ++ [.asked .npc friend false, .asked .player lamp true] ++ first ++
        (first ++ [.asked .world night false]) := by
    cbv
  refine ⟨by cbv, asked, settled moonlit fun side condition verdict here => ?_⟩
  rw [asked] at here
  simp only [first, List.cons_append, List.nil_append, List.mem_cons, List.not_mem_nil, or_false,
    Event.asked.injEq] at here
  rcases here with h | h | h | h | h | h | h | h | h <;> obtain ⟨rfl, rfl, rfl⟩ := h <;> rfl

end Engine

end Parley
