/-
# Stories in another order

In which order a story lists its dialogs, and in which order each text lists its languages, is
up to its author. Listed in another order it is still a story, searches and chains are the same,
and sessions reply the same, put the same questions, hand out the same notifications, make the
same remarks and leave the same cast.

Sessions do so for casts that overlook the order. A notification is handed out together with the
dialog that it comes from, whose texts show their languages as they are listed, and a cast that
looks at them can tell two stories apart. A polyglot does. One that keeps books does not, and where
only the dialogs are in another order there is nothing to see, whatever the cast. The one request
that shows the story itself is left out.
-/

import Mathlib
import Parley.Proofs.Engine.SideBySide
import Parley.Proofs.Sessions

namespace Parley

/-- The same thing happened, and a notification came from dialogs that are the same but for the
order of the languages. -/
inductive Event.Rearranges : Event → Event → Prop
  | same (event : Event) : Rearranges event event
  | notified {n : Notification} {origin other : Dialog} {refusal? : Option Refusal}
      (same : origin.Rearranges other) :
      Rearranges (.notified n origin refusal?) (.notified n other refusal?)

/-! ## Casts that cannot tell -/

/-- To none of the three sides it makes a difference which of two stories a notification comes
from. -/
def Cast.Overlooks (N P W : Type) [Collaborator N] [Collaborator P] [WorldCollaborator W]
    (g h : Graph) : Prop :=
  ∀ (cast : Cast N P W) (n : Notification) (id : DialogId) {origin other : Dialog},
    g.get? id = some origin → h.get? id = some other → cast.notify n origin = cast.notify n other

/-- Books do not say what an effect comes from. -/
theorem Ledger.overlooks (g h : Graph) : Cast.Overlooks Ledger Ledger Ledger.World g h := by
  intro cast n id origin other _ _
  obtain ⟨recipient, effect⟩ := n
  cases recipient <;> rfl

/-- Nobody can tell two stories apart that hold the same dialogs. -/
theorem Cast.overlooks_of_get?_eq {N P W : Type} [Collaborator N] [Collaborator P]
    [WorldCollaborator W] {g h : Graph} (same : ∀ id, g.get? id = h.get? id) :
    Cast.Overlooks N P W g h := by
  intro cast n id origin other here there
  obtain rfl : origin = other := Option.some.inj (by rw [← here, ← there, same])
  rfl

/-! ## Two tellings -/

/-- The same conversation on two stories, of which one is listed in another order. -/
def Likeness.between (g h : Graph) : Likeness where
  view := id
  speaks := Eq
  settles := Eq
  same a b := a = b ∨ a.Rearranges b ∧ ∃ id, g.get? id = some a ∧ h.get? id = some b
  closes := by
    rintro s _ rfl
    rfl
  same_refl _ := .inl rfl
  rearranges := by
    rintro a b (rfl | ⟨same, -⟩)
    · exact a.rearranges_refl
    · exact same
  localizes := by
    rintro s _ l _ a b rfl rfl same
    exact same.resolve_eq l s.fallback s.fallbackLanguage
  localizesClosing := by
    rintro s _ l _ rfl rfl
    rfl

namespace Likeness

variable {g h : Graph}

theorem graphs_between (roots : g.roots = h.roots)
    (dialogs : ∀ id, Option.Rel Dialog.Rearranges (g.get? id) (h.get? id)) :
    (between g h).Graphs g h where
  roots := roots
  dialogs id := by
    have found := dialogs id
    generalize here : g.get? id = a?, there : h.get? id = b? at found
    cases found with
    | none => exact .none
    | some same => exact .some (.inr ⟨same, id, here, there⟩)

theorem rearranges_of_events {a b : Event} (same : (between g h).Events a b) : a.Rearranges b := by
  cases same with
  | same => exact .same a
  | notified same => exact .notified ((between g h).rearranges same)

theorem heeds_between {N P W : Type} [Collaborator N] [Collaborator P] [WorldCollaborator W]
    (overlooks : Cast.Overlooks N P W g h) : (between g h).Heeds N P W := by
  rintro cast n origin other (rfl | ⟨-, id, here, there⟩)
  · rfl
  · exact overlooks cast n id here there

theorem screen_mapTexts_id (screen : Screen) : screen.mapTexts id = screen := by
  have answers : Answer.mapText id = id := rfl
  cases screen <;> simp [Screen.mapTexts, answers]

theorem reply_mapTexts_id (reply : Session.Reply) : reply.mapTexts id = reply := by
  have answers : Answer.mapText id = id := rfl
  cases reply <;> simp [Session.Reply.mapTexts, screen_mapTexts_id, answers]

end Likeness

namespace Session

variable {N P W : Type} [Collaborator N] [Collaborator P] [WorldCollaborator W]

/-- Two runs come to the same: they bring the same replies and leave the same cast, and the same
things happen on the way. -/
structure ComesToSame (x y : Traced (List Reply × Session N P W)) : Prop where
  replies : x.value.1 = y.value.1
  events : List.Forall₂ Event.Rearranges x.events y.events
  cast : x.value.2.cast = y.value.2.cast

/-- Sessions that are alike but for the order of what they tell reply the same to whatever does not
ask for the story itself, and they stay alike. -/
theorem perform_of_sessions {g h : Graph} (overlooks : Cast.Overlooks N P W g h)
    {s t : Session N P W} (alike : (Likeness.between g h).Sessions s t)
    (settings : s.engine.settings = t.engine.settings) {request : Request N P W}
    (asked : request ≠ .status) :
    (s.perform request).value.1 = (t.perform request).value.1 ∧
      List.Forall₂ Event.Rearranges (s.perform request).events (t.perform request).events ∧
      (Likeness.between g h).Sessions (s.perform request).value.2 (t.perform request).value.2 ∧
      (s.perform request).value.2.engine.settings =
        (t.perform request).value.2.engine.settings := by
  by_cases changes : ∃ settings, request = .configure settings
  · obtain ⟨others, rfl⟩ := changes
    exact ⟨rfl, .nil, ⟨alike.graph?, alike.cast, alike.screen?⟩, rfl⟩
  · rw [not_exists] at changes
    have same := Likeness.requests_self (k := Likeness.between g h) (fun _ => rfl) changes asked
    obtain ⟨⟨reply, left⟩, happened⟩ :=
      alike.traces_perform settings (Likeness.heeds_between overlooks) same
    refine ⟨?_, happened.imp fun _ _ => Likeness.rearranges_of_events, left, ?_⟩
    · rw [← Likeness.reply_mapTexts_id (s.perform request).value.1,
        ← Likeness.reply_mapTexts_id (t.perform request).value.1]
      exact reply
    · rw [settings_perform s changes, settings_perform t changes, settings]

theorem comesToSame_of_sessions {g h : Graph} (overlooks : Cast.Overlooks N P W g h)
    {s t : Session N P W} (alike : (Likeness.between g h).Sessions s t)
    (settings : s.engine.settings = t.engine.settings) {requests : List (Request N P W)}
    (asked : ∀ request ∈ requests, request ≠ .status) :
    ComesToSame (s.performAll requests) (t.performAll requests) := by
  induction requests generalizing s t with
  | nil => exact ⟨rfl, .nil, alike.cast⟩
  | cons request rest ih =>
      obtain ⟨reply, happened, left, settled⟩ :=
        perform_of_sessions overlooks alike settings (asked request List.mem_cons_self)
      obtain ⟨replies, later, cast⟩ :=
        ih left settled fun request listed => asked request (List.mem_cons_of_mem _ listed)
      refine ⟨congrArg₂ List.cons reply replies, ?_, cast⟩
      rw [events_performAll_cons, events_performAll_cons]
      exact List.rel_append happened later

/-- Sessions on two stories come to the same, whatever the settings, the cast and the languages,
as long as nobody asks for the story itself. -/
def Agree (N P W : Type) [Collaborator N] [Collaborator P] [WorldCollaborator W]
    (g h : Graph) : Prop :=
  ∀ (settings : Settings) (cast : Cast N P W) (requests : List (Request N P W)),
    (∀ request ∈ requests, request ≠ .status) →
      ComesToSame ((⟨⟨settings, some g⟩, cast, none⟩ : Session N P W).performAll requests)
        ((⟨⟨settings, some h⟩, cast, none⟩ : Session N P W).performAll requests)

end Session

namespace Graph

/-- Two stories are told alike. A search finds the same dialog, chains and the candidates for
redirections are the same, and sessions on them come to the same for everyone who overlooks the
order of the languages. -/
structure TellsLike (g h : Graph) : Prop where
  found : ∀ id, Option.Rel Dialog.Rearranges (g.find? id) (h.find? id)
  chained : ∀ root, g.chain root = h.chain root
  candidates : ∀ root owner, g.redirectCandidates root owner = h.redirectCandidates root owner
  sessions : ∀ {N P W : Type} [Collaborator N] [Collaborator P] [WorldCollaborator W],
    Cast.Overlooks N P W g h → Session.Agree N P W g h

theorem chain_eq {g h : Graph} {k : Likeness} (alike : k.Graphs g h) (root : DialogId) :
    g.chain root = h.chain root := by
  have present : root ∈ g.dialogs ↔ root ∈ h.dialogs := by
    have found : Option.Rel k.same (g.dialogs.get? root) (h.dialogs.get? root) := alike.dialogs root
    rw [OrderedMap.mem_iff_exists_get?, OrderedMap.mem_iff_exists_get?]
    generalize g.dialogs.get? root = here, h.dialogs.get? root = there at found
    cases found <;> simp
  unfold chain Arena.chain
  rw [Arena.walk_congr alike.ownedIds_eq]
  simp only [present]

theorem tellsLike_of_rel_get? {g h : Graph} (roots : g.roots = h.roots)
    (dialogs : ∀ id, Option.Rel Dialog.Rearranges (g.get? id) (h.get? id)) : g.TellsLike h := by
  have alike := Likeness.graphs_between roots dialogs
  refine ⟨?_, chain_eq alike, ?_, ?_⟩
  · intro id
    have found := alike.rel_find? id
    generalize g.find? id = here, h.find? id = there at found
    cases found with
    | none => exact .none
    | some same => exact .some ((Likeness.between g h).rearranges same)
  · intro root owner
    unfold redirectCandidates
    rw [chain_eq alike]
  · intro N P W _ _ _ overlooks settings cast requests asked
    refine Session.comesToSame_of_sessions overlooks ?_ ?_ asked
    · exact ⟨.some alike, rfl, rfl⟩
    · rfl

/-- Stories that list the same dialogs in different orders hold the same dialog under each id. -/
theorem get?_eq_of_perm {dialogs others : List Dialog} {roots : List DialogId} {g h : Graph}
    (perm : dialogs.Perm others) (made : ofDialogs dialogs roots = .ok g)
    (remade : ofDialogs others roots = .ok h) (id : DialogId) : g.get? id = h.get? id := by
  obtain ⟨lists, -, -⟩ := ofDialogs_eq_ok_iff.mp made
  obtain ⟨lists', -, -⟩ := ofDialogs_eq_ok_iff.mp remade
  ext d
  show g.dialogs.get? id = some d ↔ h.dialogs.get? id = some d
  rw [lists.get?_eq_some_iff, lists'.get?_eq_some_iff, perm.mem_iff]

/-- Stories that hold the same dialogs and begin with the same roots are searched alike. -/
theorem find?_congr {g h : Graph} (roots : g.roots = h.roots)
    (same : ∀ id, g.get? id = h.get? id) (id : DialogId) : g.find? id = h.find? id := by
  have owned (id : DialogId) : g.dialogs.ownedIds id = h.dialogs.ownedIds id := by
    have found : g.dialogs.get? id = h.dialogs.get? id := same id
    unfold Arena.ownedIds
    rw [found]
  unfold find?
  rw [Arena.walk_congr owned, roots, funext same]

end Graph

/-! ## Listed backwards -/

/-- A map with its last entry first. -/
def OrderedMap.reverse {κ α : Type} (m : OrderedMap κ α) : OrderedMap κ α where
  entries := m.entries.reverse
  nodup := by simpa using m.nodup

/-- A dialog whose text lists its last language first. -/
def Dialog.reversed (d : Dialog) : Dialog :=
  { d with text := { d.text with strings := d.text.strings.reverse } }

theorem Dialog.rearranges_reversed (d : Dialog) : d.Rearranges d.reversed :=
  { d.rearranges_refl with text := ⟨rfl, (List.reverse_perm _).symm⟩ }

/-- Someone to whom everything is true, and who remembers in which order the text that an effect
comes from lists its languages. -/
structure Polyglot where
  languages : List Language
deriving DecidableEq

instance : Collaborator Polyglot where
  meets _ _ := true
  apply _ _ origin := .accepted ⟨origin.text.strings.keys⟩

namespace Graph

open Session (doorway)

/-- A story with its last dialog and the last language of its dialogs first. -/
def reversed (g : Graph) : Graph where
  dialogs := (g.dialogs.mapValues Dialog.reversed).reverse
  roots := g.roots

theorem rearranged_reversed (g : Graph) : Rearranged g.toList g.reversed.toList := by
  have listed : g.reversed.toList = g.toList.reverse.map Dialog.reversed := by
    simp [toList, reversed, OrderedMap.values, OrderedMap.reverse, OrderedMap.mapValues,
      OrderedMap.mapEntries]
  refine ⟨g.toList.reverse, (List.reverse_perm _).symm, ?_⟩
  rw [listed, List.forall₂_map_right_iff]
  exact List.forall₂_same.mpr fun d _ => d.rearranges_reversed

theorem ofDialogs_doorway : ofDialogs doorway.toList [0] = .ok doorway := by cbv

theorem ofDialogs_reversed_doorway :
    ofDialogs doorway.reversed.toList [0] = .ok doorway.reversed := by
  cbv

/-- The session with a polyglot for a player, after the first answer. -/
def withPolyglot (g : Graph) : Session Ledger Polyglot Ledger.World :=
  let start : Session Ledger Polyglot Ledger.World :=
    ⟨.telling g, ⟨.empty .npc, ⟨[]⟩, ⟨.empty .world, none⟩⟩, none⟩
  (start.performAll [.topics .german, .pick 0 .german]).value.2

/-- A polyglot can tell the doorway from the doorway listed backwards. The dialog where the key is
handed over lists English first in the one, and German first in the other. -/
theorem not_agree_reversed :
    ofDialogs doorway.toList [0] = .ok doorway ∧
      ofDialogs doorway.reversed.toList [0] = .ok doorway.reversed ∧
      Rearranged doorway.toList doorway.reversed.toList ∧
      doorway.withPolyglot.cast.player.languages = [.english, .german] ∧
      doorway.reversed.withPolyglot.cast.player.languages = [.german, .english] ∧
      ¬ Session.Agree Ledger Polyglot Ledger.World doorway doorway.reversed := by
  have first : doorway.withPolyglot.cast.player.languages = [.english, .german] := by cbv
  have second : doorway.reversed.withPolyglot.cast.player.languages = [.german, .english] := by cbv
  refine ⟨ofDialogs_doorway, ofDialogs_reversed_doorway, rearranged_reversed doorway, first,
    second, ?_⟩
  intro agree
  have same : doorway.withPolyglot.cast = doorway.reversed.withPolyglot.cast :=
    (agree default _ _ (by simp)).cast
  rw [same, second] at first
  cases first

/-! ## In whatever order -/

/-- It makes no difference in which order a story lists its dialogs, and to those who overlook it
none in which order its texts list their languages. -/
theorem tellsLike_of_rearranged (dialogs : List Dialog) (roots : List DialogId) :
    (∀ others, dialogs.Perm others →
      ((∃ g, ofDialogs dialogs roots = .ok g) ↔ ∃ h, ofDialogs others roots = .ok h)) ∧
    ∀ others g h, ofDialogs dialogs roots = .ok g → ofDialogs others roots = .ok h →
      (Rearranged dialogs others → g.TellsLike h) ∧
      -- Where only the dialogs are in another order no cast at all can tell.
      (dialogs.Perm others → (∀ id, g.find? id = h.find? id) ∧
        ∀ (N P W : Type) [Collaborator N] [Collaborator P] [WorldCollaborator W],
          Session.Agree N P W g h) := by
  refine ⟨?_, ?_⟩
  · intro others perm
    exact ⟨exists_ofDialogs_of_rearranged (rearranged_of_perm perm),
      exists_ofDialogs_of_rearranged (rearranged_of_perm perm.symm)⟩
  · intro others g h made remade
    obtain ⟨-, rooted, -⟩ := ofDialogs_eq_ok_iff.mp made
    obtain ⟨-, rooted', -⟩ := ofDialogs_eq_ok_iff.mp remade
    have sameRoots : g.roots = h.roots := rooted.trans rooted'.symm
    have tells (rearranged : Rearranged dialogs others) : g.TellsLike h :=
      tellsLike_of_rel_get? sameRoots (rel_get?_of_rearranged rearranged made remade)
    refine ⟨tells, fun perm => ?_⟩
    have sameDialogs := get?_eq_of_perm perm made remade
    refine ⟨find?_congr sameRoots sameDialogs, ?_⟩
    intro N P W _ _ _
    exact (tells (rearranged_of_perm perm)).sessions (Cast.overlooks_of_get?_eq sameDialogs)

/-- The doorway is told forwards and backwards, in German and then in a language that it lacks. A
polyglot cannot tell it from the doorway with only the dialogs the other way round. -/
theorem tellsLike_doorway :
    ofDialogs doorway.toList [0] = .ok doorway ∧
      ofDialogs doorway.reversed.toList [0] = .ok doorway.reversed ∧
      doorway ≠ doorway.reversed ∧ doorway.TellsLike doorway.reversed ∧
      Session.ComesToSame
        ((Session.beginning doorway).performAll [.topics .german, .pick 0 .french])
        ((Session.beginning doorway.reversed).performAll [.topics .german, .pick 0 .french]) ∧
      ∃ h, ofDialogs doorway.toList.reverse [0] = .ok h ∧
        Session.Agree Ledger Polyglot Ledger.World doorway h := by
  obtain ⟨accepts, tells⟩ := tellsLike_of_rearranged doorway.toList [0]
  have like := (tells _ _ _ ofDialogs_doorway ofDialogs_reversed_doorway).1
    (rearranged_reversed doorway)
  have perm : doorway.toList.Perm doorway.toList.reverse := (List.reverse_perm _).symm
  obtain ⟨h, turned⟩ := (accepts _ perm).mp ⟨_, ofDialogs_doorway⟩
  refine ⟨ofDialogs_doorway, ofDialogs_reversed_doorway, by decide, like, ?_, h, turned, ?_⟩
  · exact like.sessions (Ledger.overlooks _ _) default Ledger.Books.empty _ (by simp)
  · exact ((tells _ _ _ ofDialogs_doorway turned).2 perm).2 _ _ _

end Graph

end Parley
