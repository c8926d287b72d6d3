/-
# Two engines side by side

Two engines may tell one story in different words, or tell two stories that differ only in
the order in which something is listed. Asked the same things on the same cast they go
through the conversation in step. They put the same questions, hand out the same
notifications, make the same remarks and leave the same cast, and their screens differ at
most in the texts.

What is to count as the same is the matter of a `Likeness`: which part of a text counts, which
languages may be spoken side by side, which settings may be in force, and which dialogs are
taken for the same. The lemmas of this module follow the engine from its gates to its turns,
and then a session through one request. Each says of one operation that two runs of it are
alike, given that what they start from is.
-/

import Mathlib
import Parley.Proofs.Rearranging
import Parley.Session

namespace Parley

/-! ## Texts on a screen -/

def Answer.mapText (f : String → String) (answer : Answer) : Answer :=
  { answer with text := f answer.text }

namespace Screen

/-- Changes what is written on a screen and leaves all else. -/
def mapTexts (f : String → String) : Screen → Screen
  | single id title text tag answers => single id (f title) (f text) tag (answers.map (·.mapText f))
  | topics answers => topics (answers.map (·.mapText f))

@[simp] theorem id_mapTexts (f : String → String) (screen : Screen) :
    (screen.mapTexts f).id = screen.id := by
  cases screen <;> rfl

@[simp] theorem answers_mapTexts (f : String → String) (screen : Screen) :
    (screen.mapTexts f).answers = screen.answers.map (·.mapText f) := by
  cases screen <;> rfl

end Screen

/-- Changes the texts that a session replies with. -/
def Session.Reply.mapTexts (f : String → String) : Reply → Reply
  | .shown screen? => .shown (screen?.map (·.mapTexts f))
  | .answers answers? => .answers (answers?.map fun answers => answers.map (·.mapText f))
  | reply => reply

/-! ## Likeness -/

/-- What counts when two conversations are set side by side. -/
structure Likeness where
  /-- The part of a text that counts. -/
  view : String → String
  /-- The languages that may be asked for side by side. -/
  speaks : Language → Language → Prop
  /-- The settings that may be in force side by side. -/
  settles : Settings → Settings → Prop
  /-- The dialogs that are taken for the same. -/
  same : Dialog → Dialog → Prop
  closes : ∀ {s t}, settles s t → s.offersClosing = t.offersClosing
  same_refl : ∀ d, same d d
  rearranges : ∀ {a b}, same a b → a.Rearranges b
  localizes : ∀ {s t l m a b}, settles s t → speaks l m → LocalizedText.Rearranges a b →
    view (s.localize a l) = view (t.localize b m)
  localizesClosing : ∀ {s t l m}, settles s t → speaks l m →
    view (s.localize s.closingText l) = view (t.localize t.closingText m)

namespace Likeness

variable (k : Likeness)

/-- The same thing happened, and a notification came from dialogs that are taken for the same. -/
inductive Events : Event → Event → Prop
  | same (event : Event) : Events event event
  | notified {n : Notification} {origin other : Dialog} {refusal? : Option Refusal}
      (same : k.same origin other) :
      Events (.notified n origin refusal?) (.notified n other refusal?)

/-- The results are related, and the same things happened on the way. -/
structure Traces {α β : Type} (R : α → β → Prop) (x : Traced α) (y : Traced β) : Prop where
  value : R x.value y.value
  events : List.Forall₂ k.Events x.events y.events

/-- Stories with the same roots and the same dialog under each id. -/
structure Graphs (g h : Graph) : Prop where
  roots : g.roots = h.roots
  dialogs : ∀ id, Option.Rel k.same (g.get? id) (h.get? id)

/-- Engines with settings that may be in force side by side and with stories that are alike. -/
structure Engines (e f : Engine) : Prop where
  settings : k.settles e.settings f.settings
  graph? : Option.Rel k.Graphs e.graph? f.graph?

/-- Answers that differ at most in what does not count of their texts. -/
def Answers (as bs : List Answer) : Prop :=
  as.map (·.mapText k.view) = bs.map (·.mapText k.view)

/-- Screens that differ at most in what does not count of their texts. -/
def Screens (a? b? : Option Screen) : Prop :=
  a?.map (·.mapTexts k.view) = b?.map (·.mapTexts k.view)

/-- Turns that end in the same refusal or in screens that are alike, on one cast. -/
inductive Turns {N P W : Type} : Turn N P W → Turn N P W → Prop
  | refused (refusal : Refusal) (cast : Cast N P W) :
      Turns ⟨.error refusal, cast⟩ ⟨.error refusal, cast⟩
  | shown {a? b? : Option Screen} (screens : k.Screens a? b?) (cast : Cast N P W) :
      Turns ⟨.ok a?, cast⟩ ⟨.ok b?, cast⟩

/-- To none of the three sides it makes a difference from which of two dialogs that are taken for
the same a notification comes. -/
def Heeds (N P W : Type) [Collaborator N] [Collaborator P] [WorldCollaborator W] : Prop :=
  ∀ (cast : Cast N P W) (n : Notification) {origin other : Dialog}, k.same origin other →
    cast.notify n origin = cast.notify n other

variable {k}

/-! ### Traces -/

section Traces

variable {α β γ δ : Type} {R : α → β → Prop} {S : γ → δ → Prop}

theorem traces_refl (x : Traced α) : k.Traces Eq x x :=
  ⟨rfl, List.forall₂_same.mpr fun event _ => .same event⟩

theorem traces_pure {a : α} {b : β} (related : R a b) :
    k.Traces R (pure a : Traced α) (pure b : Traced β) :=
  ⟨related, .nil⟩

theorem Traces.bind {x : Traced α} {y : Traced β} {f : α → Traced γ} {g : β → Traced δ}
    (first : k.Traces R x y) (next : ∀ a b, R a b → k.Traces S (f a) (g b)) :
    k.Traces S (x >>= f) (y >>= g) where
  value := (next _ _ first.value).value
  events := List.rel_append first.events (next _ _ first.value).events

/-- Two runs that begin with the very same step are alike if they go on alike. -/
theorem traces_bind_same (x : Traced α) {f : α → Traced γ} {g : α → Traced δ}
    (next : ∀ a, k.Traces S (f a) (g a)) : k.Traces S (x >>= f) (x >>= g) := by
  apply (traces_refl x).bind
  rintro a _ rfl
  exact next a

end Traces

/-! ### Stories -/

namespace Graphs

variable {g h : Graph} (alike : k.Graphs g h)

include alike

theorem ownedIds_eq (id : DialogId) : g.dialogs.ownedIds id = h.dialogs.ownedIds id := by
  have found : Option.Rel k.same (g.dialogs.get? id) (h.dialogs.get? id) := alike.dialogs id
  unfold Arena.ownedIds
  generalize g.dialogs.get? id = here, h.dialogs.get? id = there at found
  cases found with
  | none => rfl
  | some same => exact (k.rearranges same).ownedIds_eq

theorem rel_rootDialogs : List.Forall₂ k.same g.rootDialogs h.rootDialogs := by
  unfold Graph.rootDialogs
  rw [alike.roots]
  refine List.rel_filterMap ?_ (List.forall₂_eq_eq_eq ▸ rfl)
  rintro id _ rfl
  exact alike.dialogs id

theorem rel_next? {a b : DialogOption} (same : a.destination = b.destination) :
    Option.Rel k.same (g.next? a) (h.next? b) := by
  unfold Graph.next?
  rw [same]
  cases b.destination.id? with
  | none => exact .none
  | some id => exact alike.dialogs id

/-- A search finds the same dialog. -/
theorem rel_find? (id : DialogId) : Option.Rel k.same (g.find? id) (h.find? id) := by
  unfold Graph.find?
  rw [alike.roots, Arena.walk_congr alike.ownedIds_eq]
  induction h.dialogs.walk [] h.roots with
  | nil => exact .none
  | cons met rest ih =>
      have found := alike.dialogs met
      rw [List.findSome?_cons, List.findSome?_cons]
      generalize g.get? met = here, h.get? met = there at found
      cases found with
      | none => exact ih
      | @some a b same =>
          rw [Option.filter_some, Option.filter_some, (k.rearranges same).id]
          by_cases sought : (b.id == id) = true
          · rw [if_pos sought, if_pos sought]
            exact .some same
          · rw [if_neg sought, if_neg sought]
            exact ih

end Graphs

/-! ### The engine -/

section Engine

variable {N P W : Type} [Collaborator N] [Collaborator P] [WorldCollaborator W]

/-- Dialogs that are taken for the same have the same gate. -/
theorem admits_eq {a b : Dialog} (same : k.same a b) (cast : Cast N P W) :
    cast.admits a = cast.admits b := by
  have kept := k.rearranges same
  unfold Cast.admits
  rw [kept.mode, kept.requirements]

theorem traces_admitted (cast : Cast N P W) {ds es : List Dialog}
    (same : List.Forall₂ k.same ds es) :
    k.Traces (List.Forall₂ k.same) (cast.admitted ds) (cast.admitted es) := by
  induction same with
  | nil => exact traces_pure .nil
  | cons first _ ih =>
      rw [Cast.admitted, Cast.admitted, admits_eq first]
      apply traces_bind_same
      intro passes
      apply ih.bind
      intro others others' related
      cases passes with
      | false => exact traces_pure related
      | true => exact traces_pure (.cons first related)

theorem isNone_eq_of_screens {a? b? : Option Screen} (screens : k.Screens a? b?) :
    a?.isNone = b?.isNone := by
  have same := congrArg Option.isNone screens
  rwa [Option.isNone_map, Option.isNone_map] at same

namespace Engines

variable {e f : Engine} (alike : k.Engines e f)

include alike

/-- Options that lead to the same place are offered for the same reasons. -/
theorem offers_eq (cast : Cast N P W) {a b : DialogOption} (same : a.destination = b.destination) :
    e.offers cast a = f.offers cast b := by
  unfold Engine.offers
  rw [same]
  cases b.destination.id? with
  | none => rfl
  | some id =>
      have graphs := alike.graph?
      generalize e.graph? = here, f.graph? = there at graphs
      cases graphs with
      | none => rfl
      | @some g h graphs =>
          have found := graphs.dialogs id
          simp only [Option.bind_some]
          generalize g.get? id = here, h.get? id = there at found
          cases found with
          | none => rfl
          | some same => exact admits_eq same cast

variable {l m : Language} (spoken : k.speaks l m)

include spoken

theorem view_localize {a b : LocalizedText} (same : a.Rearranges b) :
    k.view (e.localize a l) = k.view (f.localize b m) :=
  k.localizes alike.settings spoken same

theorem traces_answersFrom (cast : Cast N P W) (position : Nat) {as bs : List DialogOption}
    (same : List.Forall₂ DialogOption.Rearranges as bs) :
    k.Traces k.Answers (e.answersFrom cast l position as) (f.answersFrom cast m position bs) := by
  induction same generalizing position with
  | nil => exact traces_pure rfl
  | @cons a b _ _ first _ ih =>
      rw [Engine.answersFrom, Engine.answersFrom, alike.offers_eq cast first.destination]
      apply traces_bind_same
      intro available
      apply (ih (position + 1)).bind
      intro others others' related
      cases available with
      | false => exact traces_pure related
      | true =>
          apply traces_pure
          show List.map _ (_ :: _) = List.map _ (_ :: _)
          rw [List.map_cons, List.map_cons, related]
          simp only [Answer.mapText, alike.view_localize spoken first.text, first.tag]

theorem traces_availableAnswers (cast : Cast N P W) {a b : Dialog} (same : a.Rearranges b) :
    k.Traces k.Answers (e.availableAnswers cast a l) (f.availableAnswers cast b m) := by
  have unloaded : e.graph?.isNone = f.graph?.isNone := by
    have graphs := alike.graph?
    generalize e.graph? = here, f.graph? = there at graphs
    cases graphs <;> rfl
  have leads : (a.options.any fun option => option.destination.id?.isSome) =
      b.options.any fun option => option.destination.id?.isSome := by
    have read (d : Dialog) : (d.options.any fun option => option.destination.id?.isSome) =
        (d.options.map DialogOption.destination).any fun destination =>
          destination.id?.isSome := by
      rw [List.any_map]
      rfl
    rw [read, read, DialogOption.map_destination_eq same.options]
  have answers : k.Traces k.Answers
      (do
        let answers ← e.answersFrom cast l 0 a.options
        if answers.isEmpty && e.settings.offersClosing then return [e.closingAnswer l]
        else return answers)
      (do
        let answers ← f.answersFrom cast m 0 b.options
        if answers.isEmpty && f.settings.offersClosing then return [f.closingAnswer m]
        else return answers) := by
    apply (alike.traces_answersFrom spoken cast 0 same.options).bind
    intro given given' related
    have empty : given.isEmpty = given'.isEmpty := by
      have mapped := congrArg List.isEmpty related
      rwa [List.isEmpty_map, List.isEmpty_map] at mapped
    rw [empty, k.closes alike.settings]
    split
    · apply traces_pure
      exact congrArg (fun text => [Answer.mk Answer.closing text ""])
        (k.localizesClosing alike.settings spoken)
    · exact traces_pure related
  unfold Engine.availableAnswers
  rw [unloaded, leads, same.id]
  dsimp only
  split
  · exact traces_bind_same _ fun _ => answers
  · exact answers

theorem traces_single (cast : Cast N P W) {a b : Dialog} (same : a.Rearranges b) :
    k.Traces (fun s t => s.mapTexts k.view = t.mapTexts k.view)
      (e.single cast a l) (f.single cast b m) := by
  unfold Engine.single
  apply (alike.traces_availableAnswers spoken cast same).bind
  intro answers answers' related
  apply traces_pure
  simp only [Screen.mapTexts, alike.view_localize spoken same.title,
    alike.view_localize spoken same.text, same.id, same.tag, Screen.single.injEq, true_and]
  exact related

theorem traces_present? (cast : Cast N P W) {a b : Dialog} (same : k.same a b) :
    k.Traces k.Screens (e.present? cast a l) (f.present? cast b m) := by
  unfold Engine.present?
  rw [admits_eq same]
  apply traces_bind_same
  intro admitted
  cases admitted with
  | false => exact traces_pure rfl
  | true =>
      apply (alike.traces_single spoken cast (k.rearranges same)).bind
      intro screen screen' related
      exact traces_pure (congrArg some related)

theorem answers_map_topic {ds es : List Dialog} (same : List.Forall₂ k.same ds es) :
    k.Answers (ds.map (e.topic l)) (es.map (f.topic m)) := by
  induction same with
  | nil => rfl
  | @cons d d' _ _ first _ ih =>
      have kept := k.rearranges first
      have entry : (e.topic l d).mapText k.view = (f.topic m d').mapText k.view := by
        simp only [Engine.topic, Answer.mapText, alike.view_localize spoken kept.title, kept.id,
          kept.tag]
      unfold Answers
      rw [List.map_cons, List.map_cons, List.map_cons, List.map_cons, entry, ih]

/-- Conversations that begin side by side begin alike. -/
theorem traces_topics (cast : Cast N P W) :
    k.Traces k.Screens (e.topics cast l) (f.topics cast m) := by
  have graphs := alike.graph?
  unfold Engine.topics
  generalize e.graph? = here, f.graph? = there at graphs
  cases graphs with
  | none => exact traces_bind_same _ fun _ => traces_pure rfl
  | @some g h graphs =>
      apply (traces_admitted cast graphs.rel_rootDialogs).bind
      intro ds es related
      match related with
      | .nil => exact traces_pure rfl
      | .cons same .nil =>
          apply (alike.traces_single spoken cast (k.rearranges same)).bind
          intro screen screen' shown
          exact traces_pure (congrArg some shown)
      | .cons first (.cons second rest) =>
          apply traces_pure
          exact congrArg (fun answers => some (Screen.topics answers))
            (alike.answers_map_topic spoken (.cons first (.cons second rest)))

theorem traces_select (cast : Cast N P W) {g h : Graph} (graphs : k.Graphs g h)
    (picked : DialogId) :
    k.Traces k.Screens (e.select cast g picked l) (f.select cast h picked m) := by
  have remarked {a? b? : Option Screen} (shown : k.Screens a? b?) : k.Traces k.Screens
      (do
        if a?.isNone then Traced.remark (.invalidSelection picked)
        return a?)
      (do
        if b?.isNone then Traced.remark (.invalidSelection picked)
        return b?) := by
    rw [isNone_eq_of_screens shown]
    split
    · exact traces_bind_same _ fun _ => traces_pure shown
    · exact traces_pure shown
  have found := graphs.rel_find? picked
  unfold Engine.select
  generalize g.find? picked = here, h.find? picked = there at found
  cases found with
  | none => exact traces_bind_same _ fun _ => remarked rfl
  | some same => exact (alike.traces_present? spoken cast same).bind fun _ _ => remarked

end Engines

/-- Notifications from dialogs that are taken for the same go the same way. -/
theorem traces_tellAll (heeds : k.Heeds N P W) (cast : Cast N P W) {origin other : Dialog}
    (same : k.same origin other) (notifications : List Notification) :
    k.Traces Eq (cast.tellAll origin notifications) (cast.tellAll other notifications) := by
  induction notifications generalizing cast with
  | nil => exact traces_refl _
  | cons n rest ih =>
      have told : k.Traces Eq (cast.tell origin n) (cast.tell other n) := by
        unfold Cast.tell
        rw [heeds cast n same]
        exact ⟨rfl, .cons (.notified same) .nil⟩
      rw [Cast.tellAll, Cast.tellAll]
      apply told.bind
      rintro reaction _ rfl
      cases reaction.refusal? with
      | some refusal => exact traces_refl _
      | none => exact ih reaction.after

theorem rel_getElem? {α β : Type} {R : α → β → Prop} {as : List α} {bs : List β}
    (related : List.Forall₂ R as bs) (position : Nat) :
    Option.Rel R as[position]? bs[position]? := by
  induction related generalizing position with
  | nil => exact .none
  | cons first _ ih =>
      cases position with
      | zero => exact .some first
      | succ position => exact ih position

theorem rel_option? {a b : Dialog} (same : a.Rearranges b) (answer : Int32) :
    Option.Rel DialogOption.Rearranges (a.option? answer) (b.option? answer) := by
  unfold Dialog.option?
  split
  · exact .none
  · exact rel_getElem? same.options _

namespace Engines

variable {e f : Engine} (alike : k.Engines e f) {l m : Language} (spoken : k.speaks l m)
  (heeds : k.Heeds N P W)

include alike spoken heeds

theorem traces_choose (cast : Cast N P W) {g h : Graph} (graphs : k.Graphs g h) {a b : Dialog}
    (same : k.same a b) {chosen other : DialogOption} (kept : chosen.Rearranges other) :
    k.Traces k.Turns (e.choose cast g a chosen l) (f.choose cast h b other m) := by
  unfold Engine.choose
  rw [kept.notifications]
  apply (traces_tellAll heeds cast same other.notifications).bind
  rintro reaction _ rfl
  cases reaction.refusal? with
  | some refusal => exact traces_pure (.refused refusal reaction.after)
  | none =>
      have next := graphs.rel_next? kept.destination
      generalize g.next? chosen = here, h.next? other = there at next
      cases next with
      | none => exact traces_pure (.shown rfl reaction.after)
      | some led =>
          apply (alike.traces_present? spoken reaction.after led).bind
          intro screen screen' shown
          exact traces_pure (.shown shown reaction.after)

/-- An answer to screens of one id leads on alike. -/
theorem traces_advance (cast : Cast N P W) (shown : DialogId) (answer : Int32) :
    k.Traces k.Turns (e.advance cast shown answer l) (f.advance cast shown answer m) := by
  have graphs := alike.graph?
  unfold Engine.advance
  generalize e.graph? = here, f.graph? = there at graphs
  cases graphs with
  | none => exact traces_bind_same _ fun _ => traces_pure (.shown rfl cast)
  | @some g h graphs =>
      by_cases listed : shown = Screen.topicListId
      · simp only [if_pos listed]
        apply (alike.traces_select spoken cast graphs answer).bind
        intro screen screen' related
        exact traces_pure (.shown related cast)
      · simp only [if_neg listed]
        have found := graphs.rel_find? shown
        generalize g.find? shown = here, h.find? shown = there at found
        cases found with
        | none => exact traces_bind_same _ fun _ => traces_pure (.shown rfl cast)
        | @some a b same =>
            have chosen := rel_option? (k.rearranges same) answer
            dsimp only
            generalize a.option? answer = option, b.option? answer = option' at chosen
            cases chosen with
            | some kept => exact alike.traces_choose spoken heeds cast graphs same kept
            | none =>
                dsimp only
                split
                · exact traces_bind_same _ fun _ => traces_pure (.shown rfl cast)
                · exact traces_pure (.shown rfl cast)

end Engines

end Engine

end Likeness

namespace Session

variable {N P W : Type} [Collaborator N] [Collaborator P] [WorldCollaborator W]

theorem events_performAll_cons (s : Session N P W) (request : Request N P W)
    (rest : List (Request N P W)) :
    (s.performAll (request :: rest)).events =
      (s.perform request).events ++ ((s.perform request).value.2.performAll rest).events := by
  simp only [performAll, Traced.events_bind, Traced.events_pure, List.append_nil]

theorem engine_advance (s : Session N P W) (shown : DialogId) (answer : Int32)
    (language : Language) : (s.advance shown answer language).value.2.engine = s.engine := by
  unfold advance
  rw [Traced.value_bind]
  split <;> rfl

/-- Only a change of settings changes them. -/
theorem settings_perform (s : Session N P W) {request : Request N P W}
    (asked : ∀ settings, request ≠ .configure settings) :
    (s.perform request).value.2.engine.settings = s.engine.settings := by
  cases request with
  | topics language => rfl
  | advance shown answer language => rw [perform, engine_advance]
  | pick position language =>
      unfold perform
      dsimp only
      split
      · rfl
      · rw [engine_advance]
  | answers subject language =>
      unfold perform
      dsimp only
      split <;> rfl
  | load graph? => rfl
  | configure settings => exact absurd rfl (asked settings)
  | status => rfl
  | recast change => rfl

end Session

namespace Likeness

/-! ### Sessions -/

variable {k : Likeness} {N P W : Type}

variable (k) in
/-- Requests that differ at most in the language. -/
inductive Requests : Session.Request N P W → Session.Request N P W → Prop
  | topics {l m : Language} (spoken : k.speaks l m) : Requests (.topics l) (.topics m)
  | advance (shown : DialogId) (answer : Int32) {l m : Language} (spoken : k.speaks l m) :
      Requests (.advance shown answer l) (.advance shown answer m)
  | pick (position : Nat) {l m : Language} (spoken : k.speaks l m) :
      Requests (.pick position l) (.pick position m)
  | answers (subject : Session.Subject) {l m : Language} (spoken : k.speaks l m) :
      Requests (.answers subject l) (.answers subject m)
  | load (graph? : Option Graph) : Requests (.load graph?) (.load graph?)
  | recast (change : Cast N P W → Cast N P W) : Requests (.recast change) (.recast change)

theorem Requests.ne_configure {request other : Session.Request N P W}
    (asked : k.Requests request other) (settings : Settings) :
    request ≠ .configure settings ∧ other ≠ .configure settings := by
  cases asked <;> exact ⟨nofun, nofun⟩

/-- Every request is like itself, but the ones for other settings and for the story itself. -/
theorem requests_self (speaks : ∀ l, k.speaks l l) {request : Session.Request N P W}
    (asked : ∀ settings, request ≠ .configure settings) (tells : request ≠ .status) :
    k.Requests request request := by
  cases request with
  | topics language => exact .topics (speaks language)
  | advance shown answer language => exact .advance shown answer (speaks language)
  | pick position language => exact .pick position (speaks language)
  | answers subject language => exact .answers subject (speaks language)
  | load graph? => exact .load graph?
  | configure settings => exact absurd rfl (asked settings)
  | status => exact absurd rfl tells
  | recast change => exact .recast change

variable (k) in
/-- Sessions that tell stories that are alike to the same cast and show screens that are alike. -/
structure Sessions (s t : Session N P W) : Prop where
  graph? : Option.Rel k.Graphs s.engine.graph? t.engine.graph?
  cast : s.cast = t.cast
  screen? : k.Screens s.screen? t.screen?

variable (k) in
/-- Replies that differ at most in what does not count of their texts, from sessions that are
alike. -/
structure Replies (r r' : Session.Reply × Session N P W) : Prop where
  reply : r.1.mapTexts k.view = r'.1.mapTexts k.view
  session : k.Sessions r.2 r'.2

theorem graphs_refl (g : Graph) : k.Graphs g g where
  roots := rfl
  dialogs id := by
    cases g.get? id with
    | none => exact .none
    | some d => exact .some (k.same_refl d)

/-- What is handed back for an answer does not depend on texts. -/
theorem map_answerAt?_eq {s t : Session N P W} (screens : k.Screens s.screen? t.screen?)
    (position : Nat) :
    (s.answerAt? position).map (fun choice => (choice.1.id, choice.2.index)) =
      (t.answerAt? position).map fun choice => (choice.1.id, choice.2.index) := by
  unfold Session.answerAt?
  generalize s.screen? = here, t.screen? = there at screens
  cases here with
  | none =>
      cases there with
      | none => rfl
      | some b => cases screens
  | some a =>
      cases there with
      | none => cases screens
      | some b =>
          have same : a.mapTexts k.view = b.mapTexts k.view := Option.some.inj screens
          have ids : a.id = b.id := by simpa using congrArg Screen.id same
          have indices : a.answers[position]?.map Answer.index =
              b.answers[position]?.map Answer.index := by
            have answers : a.answers.map (·.mapText k.view) = b.answers.map (·.mapText k.view) := by
              simpa using congrArg Screen.answers same
            have placed := congrArg (fun list => list[position]?.map Answer.index) answers
            simpa [Function.comp_def, Answer.mapText] using placed
          have read (c : Screen) : ((c.answers[position]?.bind fun answer => some (c, answer)).map
              fun choice => (choice.1.id, choice.2.index)) =
                (c.answers[position]?.map Answer.index).map fun index => (c.id, index) := by
            cases c.answers[position]? <;> rfl
          simp only [Option.bind_eq_bind, Option.bind_some, Option.pure_def, read, ids, indices]

namespace Sessions

variable {s t : Session N P W} (alike : k.Sessions s t)

include alike

theorem rel_subject? (subject : Session.Subject) :
    Option.Rel k.same (s.subject? subject) (t.subject? subject) := by
  cases subject with
  | given d => exact .some (k.same_refl d)
  | listed id =>
      have graphs := alike.graph?
      unfold Session.subject?
      generalize s.engine.graph? = here, t.engine.graph? = there at graphs
      cases graphs with
      | none => exact .none
      | some graphs => exact graphs.dialogs id

variable [Collaborator N] [Collaborator P] [WorldCollaborator W]
  (settled : k.settles s.engine.settings t.engine.settings)

include settled

theorem traces_advance (heeds : k.Heeds N P W) {l m : Language} (spoken : k.speaks l m)
    (shown : DialogId) (answer : Int32) :
    k.Traces k.Replies (s.advance shown answer l) (t.advance shown answer m) := by
  have engines : k.Engines s.engine t.engine := ⟨settled, alike.graph?⟩
  unfold Session.advance
  rw [alike.cast]
  apply (engines.traces_advance spoken heeds t.cast shown answer).bind
  intro turn turn' turns
  cases turns with
  | refused refusal cast => exact traces_pure ⟨rfl, alike.graph?, rfl, alike.screen?⟩
  | shown screens cast =>
      exact traces_pure ⟨congrArg Session.Reply.shown screens, alike.graph?, rfl, screens⟩

/-- Requests that differ at most in the language bring replies that are alike. -/
theorem traces_perform (heeds : k.Heeds N P W) {request other : Session.Request N P W}
    (requests : k.Requests request other) :
    k.Traces k.Replies (s.perform request) (t.perform other) := by
  have engines : k.Engines s.engine t.engine := ⟨settled, alike.graph?⟩
  cases requests with
  | topics spoken =>
      unfold Session.perform
      rw [alike.cast]
      apply (engines.traces_topics spoken t.cast).bind
      intro screen? screen?' screens
      exact traces_pure ⟨congrArg Session.Reply.shown screens, alike.graph?, rfl, screens⟩
  | advance shown answer spoken => exact alike.traces_advance settled heeds spoken shown answer
  | pick position spoken =>
      have choice := map_answerAt?_eq alike.screen? position
      unfold Session.perform
      dsimp only
      generalize s.answerAt? position = here, t.answerAt? position = there at choice
      cases here with
      | none =>
          cases there with
          | none => exact traces_pure ⟨rfl, alike⟩
          | some _ => cases choice
      | some picked =>
          cases there with
          | none => cases choice
          | some picked' =>
              obtain ⟨ids, indices⟩ := Prod.mk.inj (Option.some.inj choice)
              dsimp only
              rw [ids, indices]
              exact alike.traces_advance settled heeds spoken _ _
  | answers subject spoken =>
      have subjects := alike.rel_subject? subject
      unfold Session.perform
      dsimp only
      generalize s.subject? subject = here, t.subject? subject = there at subjects
      cases subjects with
      | none => exact traces_pure ⟨rfl, alike⟩
      | some same =>
          dsimp only
          rw [alike.cast]
          apply (engines.traces_availableAnswers spoken t.cast (k.rearranges same)).bind
          intro answers answers' related
          exact traces_pure
            ⟨congrArg (fun list => Session.Reply.answers (some list)) related, alike⟩
  | load graph? =>
      refine traces_pure ⟨rfl, ?_, alike.cast, alike.screen?⟩
      cases graph? with
      | none => exact alike.graph?
      | some g => exact .some (graphs_refl g)
  | recast change =>
      refine traces_pure ⟨rfl, alike.graph?, ?_, alike.screen?⟩
      exact congrArg change alike.cast

end Sessions

end Likeness

end Parley
