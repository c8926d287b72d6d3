/-
# A conversation in other words

What is written on a screen is there to be read, and nothing else hangs on it. Two runs of a
session that ask for the same, in whatever languages and with whatever fallbacks, show the
same dialogs with the same answers, fail in the same way, put the same questions, hand out the
same notifications, make the same remarks and leave the same cast. Their screens differ only
in the words.

One of the settings is more than a matter of words: whether a dialog without answers gets one
that closes the conversation. On that the two runs have to agree whenever something is asked.
-/

import Mathlib
import Parley.Proofs.Engine.SideBySide
import Parley.Proofs.Sessions

namespace Parley

/-- The same conversation in any words: nothing of a text counts, and of the settings only
whether they offer a way out. -/
def Likeness.anyWords : Likeness where
  view _ := ""
  speaks _ _ := True
  settles s t := s.offersClosing = t.offersClosing
  same := Eq
  closes := id
  same_refl _ := rfl
  rearranges := by
    rintro d _ rfl
    exact d.rearranges_refl
  localizes _ _ _ := rfl
  localizesClosing _ _ := rfl

theorem Likeness.eq_of_events {events others : List Event}
    (same : List.Forall₂ Likeness.anyWords.Events events others) : events = others := by
  apply List.forall₂_eq_eq_eq ▸ same.imp _
  rintro _ _ (_ | rfl) <;> rfl

namespace Session

variable {N P W : Type}

/-- A reply without what is written on its screen or its answers. -/
def Reply.wordless (reply : Reply) : Reply := reply.mapTexts fun _ => ""

/-- Two runs ask for the same in the same order, in whatever languages. In between each may
change its settings. Whenever something is asked, both offer a way out or both do not; the flags
say what they do at first. -/
inductive Retells : Bool → Bool → List (Request N P W) → List (Request N P W) → Prop
  | done (a b : Bool) : Retells a b [] []
  | configure {b : Bool} {requests others : List (Request N P W)} (a : Bool) (settings : Settings)
      (later : Retells settings.offersClosing b requests others) :
      Retells a b (.configure settings :: requests) others
  | configureOther {a : Bool} {requests others : List (Request N P W)} (b : Bool)
      (settings : Settings) (later : Retells a settings.offersClosing requests others) :
      Retells a b requests (.configure settings :: others)
  | ask {request other : Request N P W} {requests others : List (Request N P W)} (closing : Bool)
      (same : Likeness.anyWords.Requests request other)
      (later : Retells closing closing requests others) :
      Retells closing closing (request :: requests) (other :: others)

/-- What a request comes to but for the words. -/
structure Moment (N P W : Type) where
  reply : Reply
  events : List Event
  cast : Cast N P W

variable [Collaborator N] [Collaborator P] [WorldCollaborator W]

/-- What a request that changes no settings comes to but for the words. -/
def moment (s : Session N P W) (request : Request N P W) : Moment N P W :=
  ⟨(s.perform request).value.1.wordless, (s.perform request).events,
    (s.perform request).value.2.cast⟩

/-- What the requests come to in turn but for the words. A change of settings is no moment. -/
def outline (s : Session N P W) : List (Request N P W) → List (Moment N P W)
  | [] => []
  | .configure settings :: rest => outline { s with engine := { s.engine with settings } } rest
  | request :: rest => s.moment request :: (s.perform request).value.2.outline rest

theorem outline_cons {s : Session N P W} {request : Request N P W} {rest : List (Request N P W)}
    (asked : ∀ settings, request ≠ .configure settings) :
    s.outline (request :: rest) =
      s.moment request :: (s.perform request).value.2.outline rest := by
  rw [outline]
  exact asked

/-- Two runs come to the same but for the words: at each request, in all that happened, and in the
cast that is left. -/
structure Retold (s : Session N P W) (requests : List (Request N P W)) (t : Session N P W)
    (others : List (Request N P W)) : Prop where
  outline : s.outline requests = t.outline others
  events : (s.performAll requests).events = (t.performAll others).events
  cast : (s.performAll requests).value.2.cast = (t.performAll others).value.2.cast

theorem heeds_anyWords : Likeness.anyWords.Heeds N P W := by
  rintro cast n origin _ rfl
  rfl

/-- Sessions that are alike but for the words stay so along runs that ask for the same. -/
theorem retold_of_sessions {s t : Session N P W} {a b : Bool}
    {requests others : List (Request N P W)} (retells : Retells a b requests others)
    (offers : s.engine.settings.offersClosing = a) (offers' : t.engine.settings.offersClosing = b)
    (alike : Likeness.anyWords.Sessions s t) : s.Retold requests t others := by
  induction retells generalizing s t with
  | done a b => exact ⟨rfl, rfl, alike.cast⟩
  | configure a settings later ih =>
      obtain ⟨outline, events, cast⟩ := ih
        (s := { s with engine := { s.engine with settings } }) rfl offers'
        ⟨alike.graph?, alike.cast, alike.screen?⟩
      refine ⟨?_, ?_, cast⟩
      · rw [Session.outline]
        exact outline
      · rw [events_performAll_cons]
        exact events
  | configureOther b settings later ih =>
      obtain ⟨outline, events, cast⟩ := ih
        (t := { t with engine := { t.engine with settings } }) offers rfl
        ⟨alike.graph?, alike.cast, alike.screen?⟩
      refine ⟨?_, ?_, cast⟩
      · rw [Session.outline]
        exact outline
      · rw [events_performAll_cons]
        exact events
  | @ask request other requests others closing same later ih =>
      obtain ⟨⟨reply, session⟩, happened⟩ :=
        alike.traces_perform (offers.trans offers'.symm) heeds_anyWords same
      have asked settings := (same.ne_configure settings).1
      have asked' settings := (same.ne_configure settings).2
      have happened := Likeness.eq_of_events happened
      obtain ⟨outline, events, cast⟩ := ih
        (by rw [settings_perform s asked, offers]) (by rw [settings_perform t asked', offers'])
        session
      refine ⟨?_, ?_, cast⟩
      · rw [outline_cons asked, outline_cons asked', outline]
        unfold moment
        rw [happened, session.cast]
        exact congrArg (fun reply => Moment.mk reply _ _ :: _) reply
      · rw [events_performAll_cons, events_performAll_cons, happened, events]

/-- Two sessions that tell the same story to the same cast, and that are asked for the same in
whatever words, come to the same but for the words. -/
theorem retold_of_retells {s t : Session N P W} {requests others : List (Request N P W)}
    (graph? : s.engine.graph? = t.engine.graph?) (cast : s.cast = t.cast)
    (screen? : s.screen?.map (·.mapTexts fun _ => "") = t.screen?.map (·.mapTexts fun _ => ""))
    (retells : Retells s.engine.settings.offersClosing t.engine.settings.offersClosing
      requests others) : s.Retold requests t others := by
  refine retold_of_sessions retells rfl rfl ⟨?_, cast, screen?⟩
  rw [graph?]
  cases t.engine.graph? with
  | none => exact .none
  | some g => exact .some (Likeness.graphs_refl g)

/-- The doorway is shown in English, where what is missing is blank from the second screen on, and
in German, where it is a placeholder throughout. -/
theorem retold_in_doorway :
    let english : List (Request Ledger Ledger Ledger.World) :=
      [.topics .english, .configure { (default : Settings) with fallback := .blank },
        .pick 0 .french]
    let german : List (Request Ledger Ledger Ledger.World) := [.topics .german, .pick 0 .german]
    ((beginning doorway).performAll english).value.1 ≠
        ((beginning doorway).performAll german).value.1 ∧
      (beginning doorway).Retold english (beginning doorway) german := by
  intro english german
  refine ⟨by decide, retold_of_retells rfl rfl rfl ?_⟩
  apply Retells.ask _ (.topics trivial)
  apply Retells.configure
  exact Retells.ask _ (.pick 0 trivial) (.done _ _)

end Session

end Parley
