/-
# What an answer sets off

An answer that chooses an option hands out the notifications of that option: in their order,
each to its own recipient, and up to the first that is refused. Nothing is asked before the
last of them was accepted, and nothing happens after a refusal. Any other answer leaves the
cast as it is.

Notifications for one side pass the others by, so what they make of a cast can be said side
by side. `Cast.taking` does so: each side takes what is meant for it, in order, and nothing
else. `Engine.HandsOut` says on these terms how a turn goes that hands out notifications.
-/

import Parley.Proofs.Engine.Answers

namespace Parley

variable {N P W : Type} [Collaborator N] [Collaborator P] [WorldCollaborator W]

/-- An answer chooses the option at its position. -/
theorem Dialog.option?_eq_some_iff {d : Dialog} {answer : Int32} {option : DialogOption} :
    d.option? answer = some option ↔
      ∃ position : Nat, answer.toInt = position ∧ d.options[position]? = some option := by
  have sign : answer < 0 ↔ answer.toInt < 0 := by
    rw [Int32.lt_iff_toInt_lt, Int32.toInt_zero]
  unfold Dialog.option?
  split
  · rename_i negative
    rw [sign] at negative
    refine ⟨fun none => (by cases none), ?_⟩
    rintro ⟨position, placed, -⟩
    omega
  · rename_i nonneg
    rw [sign] at nonneg
    constructor
    · intro chosen
      exact ⟨answer.toInt.toNat, by omega, chosen⟩
    · rintro ⟨position, placed, there⟩
      rw [placed, Int.toNat_natCast]
      exact there

/-! ## What notifications make of a cast -/

/-- The side that a notification reaches. The world stands for its objects. -/
def Recipient.side : Recipient → Side
  | npc => .npc
  | player => .player
  | world => .world
  | origin => .world
  | object _ => .world

/-- How the world takes an effect: on one of its objects, or else on itself. -/
def Recipient.applyToWorld (recipient : Recipient) (world : W) (effect : Effect)
    (origin : Dialog) : Reaction W :=
  match recipient with
  | .origin => WorldCollaborator.applyToObject world .host effect origin
  | .object name => WorldCollaborator.applyToObject world (.named name) effect origin
  | .world | .npc | .player => Collaborator.apply world effect origin

namespace Cast

/-- The cast after some notifications: each side has taken those that reach it, in their
order, and no others. -/
def taking (cast : Cast N P W) (origin : Dialog) (notifications : List Notification) :
    Cast N P W where
  npc := (notifications.filter (·.recipient.side = .npc)).foldl
    (fun npc n => (Collaborator.apply npc n.effect origin).after) cast.npc
  player := (notifications.filter (·.recipient.side = .player)).foldl
    (fun player n => (Collaborator.apply player n.effect origin).after) cast.player
  world := (notifications.filter (·.recipient.side = .world)).foldl
    (fun world n => (n.recipient.applyToWorld world n.effect origin).after) cast.world

/-- How the side that a notification reaches refuses it, if it does. -/
def refusal? (cast : Cast N P W) (origin : Dialog) (n : Notification) : Option Refusal :=
  match n.recipient.side with
  | .npc => (Collaborator.apply cast.npc n.effect origin).refusal?
  | .player => (Collaborator.apply cast.player n.effect origin).refusal?
  | .world => (n.recipient.applyToWorld cast.world n.effect origin).refusal?

/-- Each notification is accepted on the cast that those before it left. -/
def Accepts (cast : Cast N P W) (origin : Dialog) (notifications : List Notification) : Prop :=
  ∀ before n rest, notifications = before ++ n :: rest →
    (cast.taking origin before).refusal? origin n = none

variable {cast : Cast N P W} {origin : Dialog}

@[simp] theorem taking_nil (cast : Cast N P W) (origin : Dialog) : cast.taking origin [] = cast :=
  rfl

theorem taking_append (cast : Cast N P W) (origin : Dialog) (first later : List Notification) :
    cast.taking origin (first ++ later) = (cast.taking origin first).taking origin later := by
  simp [taking]

theorem taking_cons (cast : Cast N P W) (origin : Dialog) (n : Notification)
    (rest : List Notification) :
    cast.taking origin (n :: rest) = (cast.taking origin [n]).taking origin rest :=
  cast.taking_append origin [n] rest

/-- A notification changes the side that it reaches, and that side alone decides on it. -/
theorem notify_eq (cast : Cast N P W) (n : Notification) (origin : Dialog) :
    cast.notify n origin = ⟨cast.taking origin [n], cast.refusal? origin n⟩ := by
  obtain ⟨recipient, effect⟩ := n
  cases recipient <;> rfl

theorem accepts_nil : cast.Accepts origin [] := by
  intro before n rest split
  simp at split

theorem accepts_cons_iff {n : Notification} {rest : List Notification} :
    cast.Accepts origin (n :: rest) ↔
      cast.refusal? origin n = none ∧ (cast.taking origin [n]).Accepts origin rest := by
  constructor
  · intro accepts
    refine ⟨accepts [] n rest rfl, ?_⟩
    intro before m others split
    rw [← taking_cons]
    exact accepts (n :: before) m others (by rw [split, List.cons_append])
  · rintro ⟨accepted, accepts⟩ before m others split
    cases before with
    | nil =>
        obtain ⟨rfl, -⟩ := List.cons.inj split
        exact accepted
    | cons first before =>
        obtain ⟨rfl, later⟩ := List.cons.inj split
        rw [taking_cons]
        exact accepts before m others later

/-- Either all of some notifications are accepted, or one of them is the first that is
refused. -/
theorem accepts_or_refuses (cast : Cast N P W) (origin : Dialog)
    (notifications : List Notification) :
    cast.Accepts origin notifications ∨
      ∃ before n rest refusal, notifications = before ++ n :: rest ∧
        cast.Accepts origin before ∧
        (cast.taking origin before).refusal? origin n = some refusal := by
  induction notifications generalizing cast with
  | nil => exact Or.inl accepts_nil
  | cons n rest ih =>
      cases replied : cast.refusal? origin n with
      | some refusal => exact Or.inr ⟨[], n, rest, refusal, rfl, accepts_nil, replied⟩
      | none =>
          rcases ih (cast.taking origin [n]) with accepts | ⟨before, m, later, refusal, split,
            accepts, refuses⟩
          · exact Or.inl (accepts_cons_iff.mpr ⟨replied, accepts⟩)
          · refine Or.inr ⟨n :: before, m, later, refusal, by rw [split, List.cons_append],
              accepts_cons_iff.mpr ⟨replied, accepts⟩, ?_⟩
            rw [taking_cons]
            exact refuses

theorem tellAll_of_accepts {notifications : List Notification}
    (accepts : cast.Accepts origin notifications) :
    cast.tellAll origin notifications =
      ⟨.accepted (cast.taking origin notifications),
        notifications.map fun n => .notified n origin none⟩ := by
  induction notifications generalizing cast with
  | nil => rfl
  | cons n rest ih =>
      obtain ⟨accepted, later⟩ := accepts_cons_iff.mp accepts
      simp only [tellAll, tell, notify_eq, accepted, bind, ih later, List.map_cons]
      rw [taking_cons cast origin n rest]
      rfl

theorem tellAll_of_refuses {before rest : List Notification} {n : Notification}
    {refusal : Refusal} (accepts : cast.Accepts origin before)
    (refuses : (cast.taking origin before).refusal? origin n = some refusal) :
    cast.tellAll origin (before ++ n :: rest) =
      ⟨.refused (cast.taking origin (before ++ [n])) refusal,
        (before.map fun n => .notified n origin none) ++ [.notified n origin (some refusal)]⟩ := by
  induction before generalizing cast with
  | nil =>
      rw [taking_nil] at refuses
      simp only [List.nil_append, tellAll, tell, notify_eq, refuses, bind]
      rfl
  | cons first before ih =>
      obtain ⟨accepted, later⟩ := accepts_cons_iff.mp accepts
      rw [taking_cons] at refuses
      simp only [List.cons_append, tellAll, tell, notify_eq, accepted, bind, ih later refuses,
        List.map_cons]
      rw [taking_cons cast origin first (before ++ [n])]
      rfl

end Cast

/-! ## Nothing but questions -/

namespace Traced

variable {α β : Type}

/-- All that happens on the way is that the cast is asked. -/
def OnlyAsks (x : Traced α) (cast : Cast N P W) : Prop :=
  ∀ event ∈ x.events, ∃ side condition, event = .asked side condition (cast.meets side condition)

/-- Nothing is handed out on the way. -/
def HandsOutNothing (x : Traced α) : Prop :=
  ∀ n origin refusal?, Event.notified n origin refusal? ∉ x.events

variable {cast : Cast N P W}

theorem onlyAsks_pure (a : α) : (pure a : Traced α).OnlyAsks cast := by
  intro event happened
  cases happened

theorem onlyAsks_bind {x : Traced α} {f : α → Traced β} (first : x.OnlyAsks cast)
    (later : (f x.value).OnlyAsks cast) : (x >>= f).OnlyAsks cast := by
  intro event happened
  rcases List.mem_append.mp happened with early | late
  · exact first event early
  · exact later event late

theorem OnlyAsks.handsOutNothing {x : Traced α} (asks : x.OnlyAsks cast) : x.HandsOutNothing := by
  intro n origin refusal? happened
  obtain ⟨side, condition, asked⟩ := asks _ happened
  cases asked

theorem handsOutNothing_bind {x : Traced α} {f : α → Traced β} (first : x.HandsOutNothing)
    (later : (f x.value).HandsOutNothing) : (x >>= f).HandsOutNothing := by
  intro n origin refusal? happened
  rcases List.mem_append.mp happened with early | late
  · exact first n origin refusal? early
  · exact later n origin refusal? late

theorem handsOutNothing_pure (a : α) : (pure a : Traced α).HandsOutNothing := by
  intro n origin refusal? happened
  cases happened

theorem handsOutNothing_remark (r : Remark) : (remark r).HandsOutNothing := by
  intro n origin refusal? happened
  cases List.mem_singleton.mp happened

end Traced

open Traced

theorem Cast.onlyAsks_passes (cast : Cast N P W) (mode : Mode) (requirements : List Requirement) :
    (cast.passes mode requirements).OnlyAsks cast := by
  induction requirements with
  | nil => exact onlyAsks_pure _
  | cons r rest ih =>
      refine onlyAsks_bind (fun event happened => ?_) ?_
      · exact ⟨r.side, r.condition, List.mem_singleton.mp happened⟩
      · split
        · exact onlyAsks_pure _
        · exact ih

namespace Engine

variable {engine : Engine} {g : Graph} {cast : Cast N P W} {language : Language}

theorem onlyAsks_offers (engine : Engine) (cast : Cast N P W) (option : DialogOption) :
    (engine.offers cast option).OnlyAsks cast := by
  unfold offers
  split
  · exact onlyAsks_pure _
  · split
    · exact onlyAsks_pure _
    · exact cast.onlyAsks_passes _ _

theorem onlyAsks_answersFrom (engine : Engine) (cast : Cast N P W) (language : Language)
    (position : Nat) (options : List DialogOption) :
    (engine.answersFrom cast language position options).OnlyAsks cast := by
  induction options generalizing position with
  | nil => exact onlyAsks_pure _
  | cons option rest ih =>
      exact onlyAsks_bind (engine.onlyAsks_offers cast option)
        (onlyAsks_bind (ih (position + 1)) (onlyAsks_pure _))

theorem onlyAsks_availableAnswers (loaded : engine.graph? = some g) (d : Dialog) :
    (engine.availableAnswers cast d language).OnlyAsks cast := by
  unfold availableAnswers
  simp only [loaded, Option.isNone_some, Bool.false_and, Bool.false_eq_true, ↓reduceIte]
  refine onlyAsks_bind (engine.onlyAsks_answersFrom cast language 0 d.options) ?_
  split <;> exact onlyAsks_pure _

theorem onlyAsks_present? (loaded : engine.graph? = some g) (d : Dialog) :
    (engine.present? cast d language).OnlyAsks cast := by
  refine onlyAsks_bind (cast.onlyAsks_passes _ _) ?_
  split
  · exact onlyAsks_bind
      (onlyAsks_bind (onlyAsks_availableAnswers loaded d) (onlyAsks_pure _)) (onlyAsks_pure _)
  · exact onlyAsks_pure _

/-! ## How a turn goes -/

/-- An answer chooses an option: a story is loaded, the screen is not a list of topics, its
dialog is found, and the answer is the position of one of its options. -/
structure Chooses (engine : Engine) (shown : DialogId) (answer : Int32) (g : Graph) (d : Dialog)
    (option : DialogOption) : Prop where
  loaded : engine.graph? = some g
  single : shown ≠ Screen.topicListId
  found : g.find? shown = some d
  placed : ∃ position : Nat, answer.toInt = position ∧ d.options[position]? = some option

/-- A turn hands out the notifications of an option, up to and including the first that is
refused. -/
inductive HandsOut (engine : Engine) (g : Graph) (cast : Cast N P W) (d : Dialog)
    (option : DialogOption) (language : Language) : Traced (Turn N P W) → Prop
  /-- One is refused: the turn ends with this refusal, and nothing else happens. -/
  | refused {before rest : List Notification} {n : Notification} {refusal : Refusal}
      (split : option.notifications = before ++ n :: rest) (accepts : cast.Accepts d before)
      (refuses : (cast.taking d before).refusal? d n = some refusal) :
      HandsOut engine g cast d option language
        ⟨⟨.error refusal, cast.taking d (before ++ [n])⟩,
          (before.map fun n => .notified n d none) ++ [.notified n d (some refusal)]⟩
  /-- All are accepted, and the option leads nowhere. -/
  | ended (accepts : cast.Accepts d option.notifications) (ends : g.next? option = none) :
      HandsOut engine g cast d option language
        ⟨⟨.ok none, cast.taking d option.notifications⟩,
          option.notifications.map fun n => .notified n d none⟩
  /-- All are accepted, and then the gate of the next dialog is asked about, on the cast as
  they left it. -/
  | judged {next : Dialog} {after : Cast N P W} {questions : List Event}
      (accepts : cast.Accepts d option.notifications)
      (left : after = cast.taking d option.notifications) (leads : g.next? option = some next)
      (gate : (after.admits next).events <+: questions)
      (asked : ∀ event ∈ questions, ∃ side condition,
        event = .asked side condition (after.meets side condition)) :
      HandsOut engine g cast d option language
        ⟨⟨.ok (if after.Admits next then some (engine.single after next language).value else none),
            after⟩,
          (option.notifications.map fun n => .notified n d none) ++ questions⟩

theorem value_present? (engine : Engine) (cast : Cast N P W) (d : Dialog) (language : Language) :
    (engine.present? cast d language).value =
      if cast.Admits d then some (engine.single cast d language).value else none := by
  rw [present?, value_bind, Cast.value_admits]
  by_cases admits : cast.Admits d <;> simp [admits]

theorem handsOut_choose (loaded : engine.graph? = some g) (cast : Cast N P W) (d : Dialog)
    (option : DialogOption) (language : Language) :
    engine.HandsOut g cast d option language (engine.choose cast g d option language) := by
  rcases cast.accepts_or_refuses d option.notifications with accepts |
    ⟨before, n, rest, refusal, split, accepts, refuses⟩
  · have told := Cast.tellAll_of_accepts accepts
    cases leads : g.next? option with
    | none =>
        have turn : engine.choose cast g d option language =
            ⟨⟨.ok none, cast.taking d option.notifications⟩,
              option.notifications.map fun n => .notified n d none⟩ := by
          simp [choose, told, leads, Reaction.accepted, bind, pure]
        rw [turn]
        exact .ended accepts leads
    | some next =>
        have asks : (engine.present? (cast.taking d option.notifications) next language).OnlyAsks
            (cast.taking d option.notifications) := onlyAsks_present? loaded next
        have gate := events_admits_prefix_present? engine (cast.taking d option.notifications)
          next language
        have turn : engine.choose cast g d option language =
            ⟨⟨.ok (engine.present? (cast.taking d option.notifications) next language).value,
                cast.taking d option.notifications⟩,
              (option.notifications.map fun n => .notified n d none) ++
                (engine.present? (cast.taking d option.notifications) next language).events⟩ := by
          simp [choose, told, leads, Reaction.accepted, bind, pure]
        rw [turn, value_present?]
        exact .judged accepts rfl leads gate asks
  · have turn : engine.choose cast g d option language =
        ⟨⟨.error refusal, cast.taking d (before ++ [n])⟩,
          (before.map fun n => .notified n d none) ++ [.notified n d (some refusal)]⟩ := by
      simp [choose, split, Cast.tellAll_of_refuses accepts refuses, Reaction.refused, bind, pure]
    rw [turn]
    exact .refused split accepts refuses

theorem handsOutNothing_select (loaded : engine.graph? = some g) (picked : DialogId) :
    (engine.select cast g picked language).HandsOutNothing := by
  unfold select
  cases g.find? picked with
  | none =>
      exact handsOutNothing_bind (handsOutNothing_pure _)
        (handsOutNothing_bind (handsOutNothing_remark _) (handsOutNothing_pure _))
  | some d =>
      refine handsOutNothing_bind (onlyAsks_present? loaded d).handsOutNothing ?_
      dsimp only
      split
      · exact handsOutNothing_bind (handsOutNothing_remark _) (handsOutNothing_pure _)
      · exact handsOutNothing_pure _

variable {shown : DialogId} {answer : Int32}

/-- An answer that chooses no option leaves the cast as it is and hands out nothing. -/
theorem keeps_of_not_chooses (cast : Cast N P W) (language : Language)
    (other : ∀ g d option, ¬ engine.Chooses shown answer g d option) :
    (engine.advance cast shown answer language).value.cast = cast ∧
      (engine.advance cast shown answer language).HandsOutNothing := by
  cases loaded : engine.graph? with
  | none =>
      rw [advance, loaded]
      exact ⟨rfl, handsOutNothing_bind (handsOutNothing_remark _) (handsOutNothing_pure _)⟩
  | some g =>
      by_cases single : shown = Screen.topicListId
      · subst single
        rw [advance_topicList loaded]
        exact ⟨rfl, handsOutNothing_bind (handsOutNothing_select loaded _) (handsOutNothing_pure _)⟩
      · cases found : g.find? shown with
        | none =>
            rw [advance_of_not_found loaded single found]
            exact ⟨rfl, handsOutNothing_bind (handsOutNothing_remark _) (handsOutNothing_pure _)⟩
        | some d =>
            cases chosen : d.option? answer with
            | some option =>
                exact absurd ⟨loaded, single, found, Dialog.option?_eq_some_iff.mp chosen⟩
                  (other g d option)
            | none =>
                rw [value_advance_of_no_option loaded single found chosen]
                refine ⟨rfl, ?_⟩
                rw [advance, loaded]
                simp only [single, ↓reduceIte, found, chosen]
                split
                · exact handsOutNothing_bind (handsOutNothing_remark _) (handsOutNothing_pure _)
                · exact handsOutNothing_pure _

/-- A story whose one option greets the npc, opens what hosts the conversation, shuts a gate
and only then tells the player. -/
def errand : Graph where
  dialogs :=
    { entries :=
        [(0, { (default : Dialog) with
            options :=
              [{ (default : DialogOption) with
                notifications :=
                  [⟨.npc, ⟨"set", some "greeted", .none⟩⟩, ⟨.origin, ⟨"set", some "open", .none⟩⟩,
                    ⟨.object "gate", ⟨"set", some "shut", .none⟩⟩,
                    ⟨.player, ⟨"set", some "told", .none⟩⟩] }] })]
      nodup := by decide }
  roots := [0]

/-- An answer that chooses an option hands out its notifications, up to and including the first
that is refused. Every other answer hands out nothing and leaves the cast as it is. -/
theorem advance_handsOut_or_keeps (engine : Engine) (cast : Cast N P W) (shown : DialogId)
    (answer : Int32) (language : Language) :
    (∀ g d option, engine.Chooses shown answer g d option →
      engine.HandsOut g cast d option language (engine.advance cast shown answer language)) ∧
    ((∀ g d option, ¬ engine.Chooses shown answer g d option) →
      (engine.advance cast shown answer language).value.cast = cast ∧
        (engine.advance cast shown answer language).HandsOutNothing) := by
  refine ⟨?_, keeps_of_not_chooses cast language⟩
  intro g d option chooses
  have chosen := Dialog.option?_eq_some_iff.mpr chooses.placed
  rw [advance_of_option chooses.loaded chooses.single chooses.found chosen]
  exact handsOut_choose chooses.loaded cast d option language

/-- In a world without objects the errand fails at the gate: the greeting and the opening have
been taken by then, and the player hears nothing. To close the conversation does nothing. -/
theorem advance_handsOut_or_keeps_in_errand :
    (∃ d option, (telling errand).Chooses 0 0 errand d option ∧
      (telling errand).HandsOut errand Ledger.Books.empty d option .english
        ((telling errand).advance Ledger.Books.empty 0 0 .english)) ∧
    ((telling errand).advance Ledger.Books.empty 0 0 .english).value.outcome =
      .error (.unknownObject "gate") ∧
    ((telling errand).advance Ledger.Books.empty 0 0 .english).value.cast.npc.flags = ["greeted"] ∧
    ((telling errand).advance Ledger.Books.empty 0 0 .english).value.cast.player.flags = [] ∧
    ((telling errand).advance Ledger.Books.empty 0 0 .english).value.cast.world.ledger.flags =
      ["open"] ∧
    ((telling errand).advance Ledger.Books.empty 0 Answer.closing .english).value.cast =
      Ledger.Books.empty := by
  have chooses : (telling errand).Chooses 0 0 errand _ _ :=
    ⟨rfl, by decide, by cbv, 0, by decide, rfl⟩
  have closes (g : Graph) (d : Dialog) (option : DialogOption) :
      ¬ (telling errand).Chooses 0 Answer.closing g d option := by
    rintro ⟨-, -, -, position, placed, -⟩
    have negative : Answer.closing.toInt = -1 := by decide
    omega
  refine ⟨⟨_, _, chooses, ?_⟩, by cbv, by cbv, by cbv, by cbv, ?_⟩
  · exact (advance_handsOut_or_keeps _ _ _ _ _).1 _ _ _ chooses
  · exact ((advance_handsOut_or_keeps _ _ _ _ _).2 closes).1

end Engine

end Parley
