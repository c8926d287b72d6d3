/-
# Which screens can be answered

A screen comes out of the engine by looking where an option leads, redirections included,
but an answer to it is taken by searching the story, and the search never follows a
redirection. So a screen can be answered exactly when its dialog can be reached through
ownership. This holds of every screen that begins a conversation, that was picked from a
list of topics, or that an owning option leads to. It can fail only behind a redirection to
a dialog that nothing reachable owns, and then every answer comes to nothing.

The index of an answer is a number of 32 bits, so it names its option only among the first
`2 ^ 31` of a dialog.
-/

import Mathlib
import Parley.Cast.Ledger
import Parley.Proofs.Engine.Screens

namespace Parley

open Relation

variable {N P W : Type} [Collaborator N] [Collaborator P] [WorldCollaborator W]

/-- Neither the id of a dialog nor the position of an option is the reserved number. -/
theorem ne_reserved_of_nonneg {index : Int32} (nonneg : 0 ≤ index) : index ≠ -1 := by
  rintro rfl
  exact absurd nonneg (by decide)

theorem Dialog.option?_ofNat (d : Dialog) {position : Nat} (small : position < 2 ^ 31) :
    d.option? (Int32.ofNat position) = d.options[position]? := by
  have nonneg : ¬ Int32.ofNat position < 0 := Int32.not_lt.mpr (Int32.zero_le_ofNat_of_lt small)
  rw [Dialog.option?, if_neg nonneg, Int32.toInt_ofNat_of_lt small, Int.toNat_natCast]

theorem Dialog.mem_of_option?_eq_some {d : Dialog} {answer : Int32} {option : DialogOption}
    (chosen : d.option? answer = some option) : option ∈ d.options := by
  unfold Dialog.option? at chosen
  split at chosen
  · cases chosen
  · exact List.mem_of_getElem? chosen

namespace Engine

/-- The calls that return screens. -/
inductive Call where
  /-- Begins a conversation. -/
  | topics
  /-- Takes an answer. -/
  | advance (shown : DialogId) (answer : Int32)

/-- A call returns a screen and leaves a cast behind. -/
inductive Returns (engine : Engine) (cast : Cast N P W) (language : Language) :
    Call → Screen → Cast N P W → Prop
  | topics {screen : Screen} (shown : (engine.topics cast language).value = some screen) :
      Returns engine cast language .topics screen cast
  | advance {shown : DialogId} {answer : Int32} {screen : Screen} {after : Cast N P W}
      (turned : (engine.advance cast shown answer language).value = ⟨.ok (some screen), after⟩) :
      Returns engine cast language (.advance shown answer) screen after

/-- A turn takes an option of a dialog: its notifications are handed out before anything
else, and unless one is refused, the gate of the dialog that the option leads to is asked
next, on the cast that they left. -/
structure Takes (g : Graph) (cast : Cast N P W) (d : Dialog) (option : DialogOption)
    (turn : Traced (Turn N P W)) : Prop where
  /-- What is left is what the notifications left. -/
  left : turn.value.cast = (cast.tellAll d option.notifications).value.after
  /-- The notifications come first. -/
  notified : (cast.tellAll d option.notifications).events <+: turn.events
  /-- A refusal ends the turn. -/
  refused : ∀ refusal, (cast.tellAll d option.notifications).value.refusal? = some refusal →
    turn.value.outcome = .error refusal
  /-- Without a refusal the next gate is asked. -/
  asked : ∀ next, (cast.tellAll d option.notifications).value.refusal? = none →
    g.next? option = some next →
      (cast.tellAll d option.notifications).events ++ (turn.value.cast.admits next).events <+:
        turn.events
  /-- The next gate decides whether there is a screen. -/
  decided : ∀ next, (cast.tellAll d option.notifications).value.refusal? = none →
    g.next? option = some next →
      (turn.value.outcome = .ok none ↔ ¬ turn.value.cast.Admits next)

variable {engine : Engine} {g : Graph} {cast : Cast N P W} {language : Language}

theorem value_present?_eq_none_iff {d : Dialog} :
    (engine.present? cast d language).value = none ↔ ¬ cast.Admits d := by
  rw [present?, Traced.value_bind, Cast.value_admits]
  split <;> simp_all

theorem events_admits_prefix_present? (engine : Engine) (cast : Cast N P W) (d : Dialog)
    (language : Language) :
    (cast.admits d).events <+: (engine.present? cast d language).events := by
  rw [present?, Traced.events_bind]
  exact List.prefix_append _ _

theorem takes_choose (d : Dialog) (option : DialogOption) :
    Takes g cast d option (engine.choose cast g d option language) := by
  unfold choose
  generalize told : cast.tellAll d option.notifications = first
  obtain ⟨⟨left, refusal?⟩, events⟩ := first
  cases refusal? with
  | some refusal =>
      refine ⟨?_, ?_, ?_, ?_, ?_⟩ <;> simp [told]
  | none =>
      cases leads : g.next? option with
      | none => refine ⟨?_, ?_, ?_, ?_, ?_⟩ <;> simp [told, leads]
      | some next =>
          have asked := events_admits_prefix_present? engine left next language
          have decided : (engine.present? left next language).value = none ↔
              ¬ left.Admits next := value_present?_eq_none_iff
          refine ⟨?_, ?_, ?_, ?_, ?_⟩ <;> simp [told, leads, asked, decided]

theorem mem_openAnswers {d : Dialog} {answer : Answer} :
    answer ∈ engine.openAnswers g cast language d ↔
      ∃ position option, d.options[position]? = some option ∧ g.Opens cast option ∧
        answer = ⟨Int32.ofNat position, engine.localize option.text language, option.tag⟩ := by
  unfold openAnswers
  simp only [List.mem_map, List.mem_filter, List.mem_zipIdx_iff_getElem?, decide_eq_true_eq]
  constructor
  · rintro ⟨⟨option, position⟩, ⟨there, opens⟩, rfl⟩
    exact ⟨position, option, there, opens, rfl⟩
  · rintro ⟨position, option, there, opens, rfl⟩
    exact ⟨(option, position), ⟨there, opens⟩, rfl⟩

/-- An answer that a dialog offers and that does not close chooses an option of it, as long
as positions fit into an index. -/
theorem option_of_answer (loaded : engine.graph? = some g) {d : Dialog}
    (few : d.options.length ≤ 2 ^ 31) {answer : Answer}
    (offered : answer ∈ (engine.availableAnswers cast d language).value)
    (leadsOn : answer.closes = false) :
    ∃ option, d.option? answer.index = some option ∧
      answer.text = engine.localize option.text language ∧ answer.tag = option.tag := by
  rw [value_availableAnswers loaded] at offered
  split at offered
  · obtain rfl := List.mem_singleton.mp offered
    cases leadsOn
  · obtain ⟨position, option, there, -, rfl⟩ := mem_openAnswers.mp offered
    have small : position < 2 ^ 31 :=
      Nat.lt_of_lt_of_le (List.getElem?_eq_some_iff.mp there).1 few
    exact ⟨option, (d.option?_ofNat small).trans there, rfl, rfl⟩

theorem mem_availableAnswers_of_opens (loaded : engine.graph? = some g) {d : Dialog}
    {position : Nat} {option : DialogOption} (there : d.options[position]? = some option)
    (opens : g.Opens cast option) :
    ⟨Int32.ofNat position, engine.localize option.text language, option.tag⟩ ∈
      (engine.availableAnswers cast d language).value := by
  have offered : _ ∈ engine.openAnswers g cast language d :=
    mem_openAnswers.mpr ⟨position, option, there, opens, rfl⟩
  rw [value_availableAnswers loaded, if_neg]
  · exact offered
  · rw [Bool.and_eq_true, List.isEmpty_iff]
    rintro ⟨none, -⟩
    rw [none] at offered
    cases offered

/-! ## Where a screen comes from -/

/-- How a call comes to show a dialog. -/
inductive Call.ComesTo (g : Graph) : Call → Dialog → Prop
  /-- A conversation begins with a root. -/
  | root {d : Dialog} (rooted : d ∈ g.rootDialogs) : ComesTo g .topics d
  /-- It is picked from a list of topics. -/
  | picked {id : DialogId} {d : Dialog} (found : g.find? id = some d) :
      ComesTo g (.advance Screen.topicListId id) d
  /-- The option chosen leads to it. -/
  | option {shown : DialogId} {answer : Int32} {owner d : Dialog} {option : DialogOption}
      (found : g.find? shown = some owner) (chosen : owner.option? answer = some option)
      (leads : g.next? option = some d) : ComesTo g (.advance shown answer) d

theorem comesTo_of_returns (loaded : engine.graph? = some g) {call : Call} {after : Cast N P W}
    {id : DialogId} {title text tag : String} {answers : List Answer}
    (returned : engine.Returns cast language call (.single id title text tag answers) after) :
    ∃ d, call.ComesTo g d ∧
      .single id title text tag answers = (engine.single after d language).value := by
  cases returned with
  | topics shown =>
      rcases topics_eq_screen loaded shown with ⟨d, rooted, -, same⟩ | listed
      · exact ⟨d, .root rooted, same⟩
      · cases listed
  | advance turned =>
      rcases advance_eq_screen loaded turned with ⟨rfl, rfl, d, found, shown⟩ |
        ⟨owner, option, d, found, chosen, leads, -, shown⟩
      · exact ⟨d, .picked found, (present?_eq_some shown).2⟩
      · exact ⟨d, .option found chosen leads, (present?_eq_some shown).2⟩

section Sound

variable (sound : g.dialogs.IsSound g.roots)

include sound

theorem Call.ComesTo.get?_eq_some {call : Call} {d : Dialog} (comes : call.ComesTo g d) :
    g.get? d.id = some d := by
  have there {id : DialogId} (found : g.get? id = some d) : g.get? d.id = some d :=
    (sound.keyed found).symm ▸ found
  cases comes with
  | root rooted =>
      obtain ⟨root, -, found⟩ := List.mem_filterMap.mp rooted
      exact there found
  | picked found => exact there ((Graph.find?_eq_some_iff sound).mp found).2
  | option _ _ leads =>
      obtain ⟨id, -, found⟩ := Option.bind_eq_some_iff.mp leads
      exact there found

/-- A dialog that is shown can be reached through ownership, unless it was shown because a
redirection leads to it. -/
theorem Call.ComesTo.reached_or_redirected {call : Call} {d : Dialog}
    (comes : call.ComesTo g d) :
    g.Reached d.id ∨ ∃ shown answer owner option, call = .advance shown answer ∧
      g.find? shown = some owner ∧ owner.option? answer = some option ∧
      option.destination = .redirect d.id := by
  cases comes with
  | root rooted =>
      obtain ⟨root, listed, found⟩ := List.mem_filterMap.mp rooted
      obtain rfl := sound.keyed found
      exact Or.inl ⟨d.id, listed, .refl⟩
  | picked found =>
      obtain ⟨reached, there⟩ := (Graph.find?_eq_some_iff sound).mp found
      exact Or.inl ((sound.keyed there).symm ▸ reached)
  | @option shown answer owner _ option found chosen leads =>
      obtain ⟨id, leadsTo, there⟩ := Option.bind_eq_some_iff.mp leads
      obtain rfl := sound.keyed there
      rcases Destination.id?_eq_some_iff.mp leadsTo with owned | redirected
      · obtain ⟨reached, present⟩ := (Graph.find?_eq_some_iff sound).mp found
        have offered := Dialog.mem_of_option?_eq_some chosen
        refine Or.inl (reached.of_owns (Arena.owns_iff_leads.mpr ?_))
        exact ⟨owner, present, option, offered, owned⟩
      · exact Or.inr ⟨shown, answer, owner, option, rfl, found, chosen, redirected⟩

theorem ne_topicListId {d : Dialog} (there : g.get? d.id = some d) :
    d.id ≠ Screen.topicListId :=
  ne_reserved_of_nonneg (sound.nonneg (OrderedMap.mem_of_get?_eq_some there))

/-- Handing back an answer to a dialog that can be reached takes an option of it. -/
theorem takes_advance_of_reached (loaded : engine.graph? = some g) {d : Dialog}
    (there : g.get? d.id = some d) (reached : g.Reached d.id) {answer : Int32}
    {option : DialogOption} (chosen : d.option? answer = some option) (cast : Cast N P W)
    (language : Language) :
    Takes g cast d option (engine.advance cast d.id answer language) := by
  have found : g.find? d.id = some d := (Graph.find?_eq_some_iff sound).mpr ⟨reached, there⟩
  rw [advance_of_option loaded (ne_topicListId sound there) found chosen]
  exact takes_choose d option

/-- Handing back any answer to a dialog that cannot be reached ends the conversation. -/
theorem advance_of_not_reached (loaded : engine.graph? = some g) {d : Dialog}
    (there : g.get? d.id = some d) (unreached : ¬ g.Reached d.id) (answer : Int32)
    (cast : Cast N P W) (language : Language) :
    engine.advance cast d.id answer language =
      ⟨⟨.ok none, cast⟩, [.remarked (.dialogNotFound d.id)]⟩ :=
  advance_of_not_found loaded (ne_topicListId sound there)
    ((Graph.find?_eq_none_iff sound).mpr unreached)

end Sound

/-! ## Two stories -/

/-- A story whose second dialog only a redirection leads to. Its option would let the player
find a key. -/
def detour : Graph where
  dialogs :=
    { entries :=
        [(0, { (default : Dialog) with
            options := [{ (default : DialogOption) with destination := .redirect 1 }] }),
          (1, { (default : Dialog) with
            id := 1
            options :=
              [{ (default : DialogOption) with
                notifications := [⟨.player, ⟨"set", some "key", .none⟩⟩]
                destination := .redirect 0 }] })]
      nodup := by decide }
  roots := [0]

/-- A dialog with a number of options, each of which ends the conversation. -/
def crowded (n : Nat) : Dialog := { (default : Dialog) with options := List.replicate n default }

/-- A story of a crowded dialog. -/
def crowd (n : Nat) : Graph where
  dialogs := { entries := [(0, crowded n)], nodup := by simp }
  roots := [0]

theorem get?_crowd_eq_some_iff {n : Nat} {id : DialogId} {d : Dialog} :
    (crowd n).dialogs.get? id = some d ↔ id = 0 ∧ d = crowded n := by
  simp [OrderedMap.get?_eq_some_iff, crowd]

theorem eq_ending_of_leads_crowd {n : Nat} {owner : DialogId} {destination : Destination}
    (leads : (crowd n).dialogs.Leads owner destination) : destination = .ending := by
  obtain ⟨d, found, option, offered, rfl⟩ := leads
  obtain ⟨-, rfl⟩ := get?_crowd_eq_some_iff.mp found
  obtain rfl := List.eq_of_mem_replicate offered
  rfl

theorem isSound_crowd (n : Nat) : (crowd n).dialogs.IsSound (crowd n).roots where
  keyed found := by
    obtain ⟨rfl, rfl⟩ := get?_crowd_eq_some_iff.mp found
    rfl
  nonneg present := by
    obtain rfl : _ = 0 := List.mem_singleton.mp present
    decide
  rooted listed := listed
  linked leads reached := by
    cases eq_ending_of_leads_crowd leads
    cases reached
  loopFree id loop := by
    obtain ⟨next, owns, -⟩ := TransGen.head'_iff.mp loop
    cases eq_ending_of_leads_crowd (Arena.owns_iff_leads.mp owns)

theorem topics_crowd (n : Nat) (cast : Cast N P W) (language : Language) :
    ((telling (crowd n)).topics cast language).value =
      some ((telling (crowd n)).single cast (crowded n) language).value := by
  refine value_topics_of_only rfl (List.filter_eq_self.mpr fun d listed => ?_)
  obtain rfl : d = crowded n := List.mem_singleton.mp listed
  refine decide_eq_true fun r required => ?_
  cases required

/-! ## Which screens can be answered -/

/-- Every screen of a dialog can be answered, unless only redirections lead to the dialog:
it was then shown for an option that redirects to it, and no answer to it is taken. -/
theorem answerable_or_redirected {dialogs : List Dialog} {roots : List DialogId}
    (made : Graph.ofDialogs dialogs roots = .ok g) (loaded : engine.graph? = some g)
    {call : Call} {after : Cast N P W} {id : DialogId} {title text tag : String}
    {answers : List Answer}
    (returned : engine.Returns cast language call (.single id title text tag answers) after) :
    ∃ d, g.get? id = some d ∧
      .single id title text tag answers = (engine.single after d language).value ∧
      (g.find? id = some d ↔ g.Reached id) ∧
      (g.Reached id → d.options.length ≤ 2 ^ 31 →
        ∀ answer ∈ answers, answer.closes = false →
          ∃ option, d.option? answer.index = some option ∧
            answer.text = engine.localize option.text language ∧ answer.tag = option.tag ∧
            ∀ (later : Cast N P W) (language : Language),
              Takes g later d option (engine.advance later id answer.index language)) ∧
      (¬ g.Reached id →
        (∃ shown position owner option, call = .advance shown position ∧
          g.find? shown = some owner ∧ owner.option? position = some option ∧
          option.destination = .redirect id) ∧
        ∀ (later : Cast N P W) (index : Int32) (language : Language),
          engine.advance later id index language =
            ⟨⟨.ok none, later⟩, [.remarked (.dialogNotFound id)]⟩) := by
  obtain ⟨-, -, sound⟩ := Graph.ofDialogs_eq_ok_iff.mp made
  obtain ⟨d, comes, same⟩ := comesTo_of_returns loaded returned
  have there := comes.get?_eq_some sound
  obtain ⟨rfl, offered⟩ : id = d.id ∧
      answers = (engine.availableAnswers after d language).value := by
    obtain ⟨rfl, -, -, -, rfl⟩ := Screen.single.inj same
    exact ⟨rfl, rfl⟩
  refine ⟨d, there, same, ?_, ?_, ?_⟩
  · rw [Graph.find?_eq_some_iff sound]
    exact and_iff_left there
  · intro reached few answer listed leadsOn
    obtain ⟨option, chosen, label, data⟩ :=
      option_of_answer loaded few (offered ▸ listed) leadsOn
    refine ⟨option, chosen, label, data, fun later language => ?_⟩
    exact takes_advance_of_reached sound loaded there reached chosen later language
  · intro unreached
    constructor
    · obtain ⟨shown, position, owner, option, redirected⟩ :=
        (comes.reached_or_redirected sound).resolve_left unreached
      exact ⟨shown, position, owner, option, redirected⟩
    · intro later index language
      exact advance_of_not_reached sound loaded there unreached index later language

/-- The first screen of the detour can be answered and the second cannot. -/
theorem answerable_or_redirected_in_detour :
    (∃ d option, detour.get? 0 = some d ∧ d.option? 0 = some option ∧
      ∀ (later : Ledger.Books) (language : Language),
        Takes detour later d option ((telling detour).advance later 0 0 language)) ∧
    ∀ (later : Ledger.Books) (index : Int32) (language : Language),
      (telling detour).advance later 1 index language =
        ⟨⟨.ok none, later⟩, [.remarked (.dialogNotFound 1)]⟩ := by
  let unnamed := "<missing en text: unnamed>"
  have made : Graph.ofDialogs detour.toList [0] = .ok detour := by cbv
  have first : (telling detour).Returns Ledger.Books.empty .english .topics
      (.single 0 unnamed unnamed "" [⟨0, unnamed, ""⟩]) Ledger.Books.empty :=
    .topics (by cbv)
  have second : (telling detour).Returns Ledger.Books.empty .english (.advance 0 0)
      (.single 1 unnamed unnamed "" [⟨0, unnamed, ""⟩]) Ledger.Books.empty :=
    .advance (by cbv)
  have unreached : ¬ detour.Reached 1 :=
    (Graph.find?_eq_none_iff (Graph.ofDialogs_eq_ok_iff.mp made).2.2).mp (by cbv)
  constructor
  · obtain ⟨d, there, -, -, taken, -⟩ := answerable_or_redirected made rfl first
    have few : d.options.length ≤ 2 ^ 31 := by
      cases there
      decide
    obtain ⟨option, chosen, -, -, takes⟩ := taken ⟨0, List.mem_cons_self, .refl⟩ few
      ⟨0, unnamed, ""⟩ (List.mem_singleton_self _) rfl
    exact ⟨d, option, there, chosen, takes⟩
  · obtain ⟨-, -, -, -, -, lost⟩ := answerable_or_redirected made rfl second
    exact (lost unreached).2

/-- Two stories that stand, and in each a screen with an answer that does not close and yet
comes to nothing. The first shows a dialog that only a redirection leads to. The second has
more options than there are indices for them. -/
theorem unanswerable_in_detour_and_crowd :
    (Graph.ofDialogs detour.toList [0] = .ok detour ∧
      ∃ answer, answer.closes = false ∧
        (telling detour).Returns Ledger.Books.empty .english (.advance 0 0)
          (.single 1 "<missing en text: unnamed>" "<missing en text: unnamed>" "" [answer])
          Ledger.Books.empty ∧
        detour.find? 1 = none ∧
        (telling detour).advance Ledger.Books.empty 1 answer.index .english =
          ⟨⟨.ok none, Ledger.Books.empty⟩, [.remarked (.dialogNotFound 1)]⟩) ∧
    Graph.ofDialogs (crowd (2 ^ 31 + 1)).toList [0] = .ok (crowd (2 ^ 31 + 1)) ∧
      ∃ title text tag answers,
        (telling (crowd (2 ^ 31 + 1))).Returns Ledger.Books.empty .english .topics
          (.single 0 title text tag answers) Ledger.Books.empty ∧
        ∃ answer ∈ answers, answer.closes = false ∧
          ((telling (crowd (2 ^ 31 + 1))).advance Ledger.Books.empty 0
            answer.index .english).value = ⟨.ok none, Ledger.Books.empty⟩ := by
  constructor
  · refine ⟨by cbv, ⟨0, "<missing en text: unnamed>", ""⟩, rfl, .advance ?_, ?_, ?_⟩ <;> cbv
  · have sound := isSound_crowd (2 ^ 31 + 1)
    have there : (crowded (2 ^ 31 + 1)).options[2 ^ 31]? = some default :=
      List.getElem?_replicate_of_lt (Nat.lt_succ_self _)
    have last : (crowded (2 ^ 31 + 1)).option? (Int32.ofNat (2 ^ 31)) = none := if_pos (by decide)
    have found : (crowd (2 ^ 31 + 1)).find? 0 = some (crowded (2 ^ 31 + 1)) :=
      (Graph.find?_eq_some_iff sound).mpr
        ⟨⟨0, List.mem_cons_self, .refl⟩, get?_crowd_eq_some_iff.mpr ⟨rfl, rfl⟩⟩
    refine ⟨Graph.ofDialogs_eq_ok_iff.mpr ⟨rfl, rfl, sound⟩, _, _, _, _, .topics (topics_crowd _ _ _),
      _, mem_availableAnswers_of_opens rfl there (Or.inl rfl), by decide, ?_⟩
    exact value_advance_of_no_option rfl (by decide) found last

end Engine

end Parley
