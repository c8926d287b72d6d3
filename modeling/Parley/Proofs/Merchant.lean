/-
# What the merchant's story shows

The option to buy the sword leads to the thanks, and the thanks require a sold sword, which
only buying it makes known. An option is offered when the dialog that it leads to may be shown
before the option is taken. So the sword is never offered, and nobody is ever thanked.

A game stands at one of five places, each with one screen, and a picked answer leads from
place to place while the company stays as it was at the beginning. From this every screen of
every game is known: all the rest of the story can be seen, and the traveller keeps the gold.
-/

import Mathlib
import Parley.Merchant.Play
import Parley.Proofs.Engine.Screens

namespace Parley.Merchant

/-! ## Games that go on -/

/-- The game after some lines. Lines behind its end are not read. -/
def Game.after (game : Game) : List String → Game
  | [] => game
  | line :: rest =>
    match game.prompt with
    | .ends _ => game
    | .asks _ => (game.answer line).2.after rest

/-- What stands on the terminal of a game when some lines have been read, without what is
shown next. -/
def Game.transcript (game : Game) : List String → String
  | [] => ""
  | line :: rest =>
    match game.prompt with
    | .ends _ => ""
    | .asks lines => lines ++ (game.answer line).1 ++ (game.answer line).2.transcript rest

/-- A game whose first lines are known goes on as the game after them. -/
theorem Game.play_append (game : Game) (lines more : List String) :
    game.play (lines ++ more) = game.transcript lines ++ (game.after lines).play more := by
  induction lines generalizing game with
  | nil => simp [transcript, after]
  | cons line rest ih =>
      cases prompt : game.prompt with
      | ends shown =>
          have finished (input : List String) : game.play input = shown := by
            unfold play
            rw [prompt]
          simp [transcript, after, prompt, finished]
      | asks shown =>
          have goesOn (input : List String) : game.play (line :: input) =
              shown ++ (game.answer line).1 ++ (game.answer line).2.play input := by
            rw [play.eq_def, prompt]
          simp [transcript, after, prompt, goesOn, ih, String.append_assoc]

/-- A game shows a dialog with an answer that takes its option at a position. -/
def Game.Offers (game : Game) (id : DialogId) (position : Nat) : Prop :=
  ∃ title text tag answers, game.session.screen? = some (.single id title text tag answers) ∧
    ∃ answer ∈ answers, answer.index.toInt = position

/-- Some lines bring a game to a screen that offers this option of this dialog. -/
def IsLive (language : Language) (id : DialogId) (position : Nat) : Prop :=
  ∃ lines, ((opening language).after lines).Offers id position

/-! ## The story and its screens -/

/-- The story as a graph. -/
def tale : Graph where
  dialogs :=
    { entries := [(0, greeting), (1, wares), (2, thanks), (3, rumors)]
      nodup := by decide }
  roots := [0, 3]

theorem story_eq_ok : story = .ok tale := by cbv

theorem graph?_engine : engine.graph? = some tale := by
  show story.toOption = some tale
  rw [story_eq_ok]
  rfl

theorem find?_greeting : tale.find? 0 = some greeting := by cbv

theorem find?_wares : tale.find? 1 = some wares := by cbv

theorem find?_rumors : tale.find? 3 = some rumors := by cbv

/-- The screen of a dialog while the company is as it was at the beginning. -/
def scene (language : Language) (d : Dialog) : Screen :=
  engine.screenOf language d (engine.openAnswers tale company language d)

theorem value_present? (language : Language) {d : Dialog} (admitted : company.Admits d)
    (offered : engine.openAnswers tale company language d ≠ []) :
    (engine.present? company d language).value = some (scene language d) := by
  have screen : (engine.single company d language).value =
      engine.screenOf language d (engine.availableAnswers company d language).value := rfl
  rw [Engine.value_availableAnswers graph?_engine, List.isEmpty_eq_false_iff.mpr offered] at screen
  rw [Engine.present?, Traced.value_bind, Cast.value_admits, decide_eq_true admitted]
  exact congrArg some screen

theorem value_advance_of_topic (language : Language) {d : Dialog}
    (found : tale.find? d.id = some d) (admitted : company.Admits d)
    (offered : engine.openAnswers tale company language d ≠ []) :
    (engine.advance company Screen.topicListId d.id language).value =
      ⟨.ok (some (scene language d)), company⟩ := by
  rw [Engine.advance_topicList graph?_engine, Engine.select, found]
  simp only [Traced.value_bind, value_present? language admitted offered, Option.isNone_some]
  rfl

theorem value_advance_of_option {language : Language} {shown : DialogId}
    (single : shown ≠ Screen.topicListId) {d : Dialog} (found : tale.find? shown = some d)
    {answer : Int32} {option : DialogOption} (chosen : d.option? answer = some option)
    (kept : (company.tellAll d option.notifications).value = .accepted company)
    {screen? : Option Screen}
    (leads : ((tale.next? option).bind fun next => (engine.present? company next language).value) =
      screen?) :
    (engine.advance company shown answer language).value = ⟨.ok screen?, company⟩ := by
  rw [Engine.advance_of_option graph?_engine single found chosen, Engine.choose,
    Traced.value_bind, kept, ← leads]
  cases tale.next? option <;> rfl

/-! ## Places -/

/-- Where a game can stand. -/
inductive Place where
  /-- The topics are listed. -/
  | choosing
  /-- The merchant greets. -/
  | greeted
  /-- The wares are shown. -/
  | browsing
  /-- The rumors are told. -/
  | listening
  | left
deriving DecidableEq

namespace Place

def screen? (language : Language) : Place → Option Screen
  | choosing => some (.topics ([greeting, rumors].map (engine.topic language)))
  | greeted => some (scene language greeting)
  | browsing => some (scene language wares)
  | listening => some (scene language rumors)
  | left => none

/-- The game that stands at a place. -/
def game (language : Language) (place : Place) : Game :=
  ⟨⟨engine, company, place.screen? language⟩, language⟩

/-- Where the answer at a position leads. Where there is no such answer, the game stays. -/
def next : Place → Nat → Place
  | choosing, 0 => greeted
  | choosing, 1 => listening
  | greeted, 0 => browsing
  | greeted, 1 => left
  | browsing, 0 => greeted
  | listening, 0 => left
  | place, _ => place

/-- The dialog shown and the option taken by each of the answers at a place. -/
def offered : Place → List (DialogId × Nat)
  | greeted => [(0, 0), (0, 1)]
  | browsing => [(1, 1)]
  | listening => [(3, 0)]
  | choosing => []
  | left => []

end Place

theorem opening_eq (language : Language) : opening language = Place.choosing.game language := by
  have admitted : tale.rootDialogs.filter (fun d => company.Admits d) = [greeting, rumors] := by
    decide
  have topics : (engine.topics company language).value = Place.choosing.screen? language := by
    rw [Engine.topics, graph?_engine]
    simp only [Traced.value_bind, Cast.value_admitted, admitted]
    rfl
  unfold opening Place.game
  rw [← topics]
  rfl

section Picking

variable {language : Language} {place after : Place} {position : Nat}

theorem pick_of_answerAt? {screen : Screen} {answer : Answer}
    (listed : (place.game language).session.answerAt? position = some (screen, answer))
    (turned : (engine.advance company screen.id answer.index language).value =
      ⟨.ok (after.screen? language), company⟩) :
    ((place.game language).session.perform (.pick position language)).value.2 =
      (after.game language).session := by
  have turn : ((place.game language).session.engine.advance (place.game language).session.cast
      screen.id answer.index language).value = ⟨.ok (after.screen? language), company⟩ := turned
  simp only [Session.perform, listed, Session.advance, Traced.value_bind, turn]
  rfl

theorem pick_of_no_answer (unlisted : (place.game language).session.answerAt? position = none) :
    ((place.game language).session.perform (.pick position language)).value.2 =
      (place.game language).session := by
  simp only [Session.perform, unlisted]
  rfl

end Picking

/-- A picked answer leads from place to place. -/
theorem value_pick (language : Language) (place : Place) (position : Nat) :
    ((place.game language).session.perform (.pick position language)).value.2 =
      ((place.next position).game language).session := by
  have showsGreeting : (engine.present? company greeting language).value =
      some (scene language greeting) :=
    value_present? language (by decide) (List.cons_ne_nil _ _)
  have showsWares : (engine.present? company wares language).value =
      some (scene language wares) :=
    value_present? language (by decide) (List.cons_ne_nil _ _)
  match place, position with
  | .choosing, 0 =>
      exact pick_of_answerAt? rfl
        (value_advance_of_topic language find?_greeting (by decide) (List.cons_ne_nil _ _))
  | .choosing, 1 =>
      exact pick_of_answerAt? rfl
        (value_advance_of_topic language find?_rumors (by decide) (List.cons_ne_nil _ _))
  | .greeted, 0 =>
      exact pick_of_answerAt? rfl
        (value_advance_of_option (by decide) find?_greeting (by rfl) (by rfl) (by exact showsWares))
  | .greeted, 1 =>
      exact pick_of_answerAt? rfl
        (value_advance_of_option (by decide) find?_greeting (by rfl) (by rfl) (by rfl))
  | .browsing, 0 =>
      exact pick_of_answerAt? rfl
        (value_advance_of_option (by decide) find?_wares (by rfl) (by rfl) (by exact showsGreeting))
  | .listening, 0 =>
      exact pick_of_answerAt? rfl
        (value_advance_of_option (by decide) find?_rumors (by rfl) (by rfl) (by rfl))
  | .choosing, _ + 2 => exact pick_of_no_answer rfl
  | .greeted, _ + 2 => exact pick_of_no_answer rfl
  | .browsing, _ + 1 => exact pick_of_no_answer rfl
  | .listening, _ + 1 => exact pick_of_no_answer rfl
  | .left, _ => exact pick_of_no_answer rfl

/-- A line takes a game from place to place. One that picks nothing leaves it where it is. -/
theorem answer_snd (language : Language) (place : Place) (line : String) :
    ((place.game language).answer line).2 =
      ((position? line).elim place place.next).game language := by
  unfold Game.answer
  cases position? line with
  | none => rfl
  | some position =>
      show (⟨((place.game language).session.perform (.pick position language)).value.2,
        language⟩ : Game) = _
      rw [value_pick]
      rfl

/-! ## Every game -/

/-- After any lines a game stands at one of the places. -/
theorem exists_place_after (language : Language) (lines : List String) (place : Place) :
    ∃ last : Place, (place.game language).after lines = last.game language := by
  induction lines generalizing place with
  | nil => exact ⟨place, rfl⟩
  | cons line rest ih =>
      rw [Game.after]
      split
      · exact ⟨place, rfl⟩
      · rw [answer_snd]
        exact ih _

/-- A scene offers the options at the positions that its answers have as indexes. -/
theorem offers_scene_iff {language : Language} {place : Place} {d : Dialog} (positions : List Nat)
    (shown : place.screen? language = some (scene language d))
    (indexed : ((engine.openAnswers tale company language d).map fun answer =>
      answer.index.toInt) = positions.map Int.ofNat) (id : DialogId) (position : Nat) :
    (place.game language).Offers id position ↔
      (id, position) ∈ positions.map fun position => (d.id, position) := by
  have listed : (∃ answer ∈ engine.openAnswers tale company language d,
      answer.index.toInt = position) ↔ position ∈ positions := by
    rw [← List.mem_map, indexed, List.mem_map]
    constructor
    · rintro ⟨other, offered, same⟩
      rwa [← Int.ofNat.inj same]
    · exact fun offered => ⟨position, offered, rfl⟩
  rw [List.mem_map]
  constructor
  · rintro ⟨title, text, tag, answers, stands, offered⟩
    cases shown.symm.trans stands
    exact ⟨position, listed.mp offered, rfl⟩
  · rintro ⟨other, offered, same⟩
    cases same
    exact ⟨_, _, _, _, shown, listed.mpr offered⟩

/-- At each place exactly the options of its list are offered. -/
theorem offers_iff (language : Language) (place : Place) (id : DialogId) (position : Nat) :
    (place.game language).Offers id position ↔ (id, position) ∈ place.offered := by
  cases place with
  | choosing => simp [Game.Offers, Place.game, Place.screen?, Place.offered]
  | greeted =>
      have shown : Place.greeted.screen? language = some (scene language greeting) := rfl
      exact offers_scene_iff [0, 1] shown rfl id position
  | browsing =>
      have shown : Place.browsing.screen? language = some (scene language wares) := rfl
      exact offers_scene_iff [1] shown rfl id position
  | listening =>
      have shown : Place.listening.screen? language = some (scene language rumors) := rfl
      exact offers_scene_iff [0] shown rfl id position
  | left => simp [Game.Offers, Place.game, Place.screen?, Place.offered]

/-- The options that no game offers: to buy the sword, and to go on after the thanks. -/
def deadOptions : List (DialogId × Nat) := [(wares.id, 0), (thanks.id, 0)]

theorem not_isLive_of_mem_deadOptions {language : Language} {id : DialogId} {position : Nat}
    (dead : (id, position) ∈ deadOptions) : ¬ IsLive language id position := by
  rintro ⟨lines, offers⟩
  obtain ⟨place, stands⟩ := exists_place_after language lines .choosing
  rw [opening_eq, stands, offers_iff] at offers
  have apart : ∀ place : Place, ∀ option ∈ deadOptions, option ∉ place.offered := by
    intro place
    cases place <;> decide
  exact apart place _ dead offers

theorem after_cons (language : Language) {place : Place} (unfinished : place ≠ .left)
    {line : String} {position : Nat} (picked : position? line = some position)
    (rest : List String) :
    (place.game language).after (line :: rest) =
      ((place.next position).game language).after rest := by
  have asks : ∃ shown, (place.game language).prompt = .asks shown := by
    cases place with
    | left => exact absurd rfl unfinished
    | _ => exact ⟨_, rfl⟩
  obtain ⟨shown, asks⟩ := asks
  rw [Game.after, asks]
  show ((place.game language).answer line).2.after rest = _
  rw [answer_snd, picked]
  rfl

/-- Some lines come to each place. -/
theorem exists_lines (language : Language) (place : Place) :
    ∃ lines, (opening language).after lines = place.game language := by
  have first : position? "1" = some 0 := by decide
  have second : position? "2" = some 1 := by decide
  rw [opening_eq]
  cases place with
  | choosing => exact ⟨[], rfl⟩
  | greeted => exact ⟨["1"], after_cons language (by decide) first []⟩
  | listening => exact ⟨["2"], after_cons language (by decide) second []⟩
  | browsing =>
      refine ⟨["1", "1"], ?_⟩
      rw [after_cons language (by decide) first]
      exact after_cons language (by decide) first []
  | left =>
      refine ⟨["2", "1"], ?_⟩
      rw [after_cons language (by decide) second]
      exact after_cons language (by decide) first []

theorem isLive_of_mem_offered (language : Language) {place : Place} {id : DialogId}
    {position : Nat} (offered : (id, position) ∈ place.offered) : IsLive language id position := by
  obtain ⟨lines, stands⟩ := exists_lines language place
  refine ⟨lines, ?_⟩
  rw [stands, offers_iff]
  exact offered

/-- An option of the story is dead or offered at one of the places. -/
theorem exists_offered_of_not_mem_deadOptions {d : Dialog} (told : d ∈ tale.toList)
    {position : Nat} (small : position < d.options.length)
    (alive : (d.id, position) ∉ deadOptions) :
    ∃ place : Place, (d.id, position) ∈ place.offered := by
  have covered : ∀ d ∈ tale.toList, ∀ position < d.options.length,
      (d.id, position) ∉ deadOptions →
        ∃ place ∈ [Place.greeted, .browsing, .listening], (d.id, position) ∈ place.offered := by
    decide
  obtain ⟨place, -, offered⟩ := covered d told position small alive
  exact ⟨place, offered⟩

theorem cast_after (language : Language) (lines : List String) :
    ((opening language).after lines).session.cast = company := by
  obtain ⟨place, stands⟩ := exists_place_after language lines .choosing
  rw [opening_eq, stands]
  rfl

/-- In every language, all options of the story can be seen but the two that are dead, and no
game changes anybody: the traveller keeps the gold and receives nothing. -/
theorem isLive_iff_not_mem_deadOptions (language : Language) :
    story = .ok tale ∧
      (∀ d ∈ tale.toList, ∀ position < d.options.length,
        (IsLive language d.id position ↔ (d.id, position) ∉ deadOptions)) ∧
      ∀ lines, ((opening language).after lines).session.cast = company := by
  refine ⟨story_eq_ok, ?_, cast_after language⟩
  intro d told position small
  constructor
  · exact fun live dead => not_isLive_of_mem_deadOptions dead live
  · intro alive
    obtain ⟨place, offered⟩ := exists_offered_of_not_mem_deadOptions told small alive
    exact isLive_of_mem_offered language offered

/-- In German, the way back from the wares can be seen and the purchase cannot, and whoever asks
for it all the same still has fifteen gold. -/
theorem isLive_at_wares :
    wares ∈ tale.toList ∧ wares.options.length = 2 ∧
      IsLive .german 1 1 ∧ ¬ IsLive .german 1 0 ∧
      ((opening .german).after ["1", "1", "2", "1"]).session.cast.player.gold = 15 := by
  obtain ⟨-, live, kept⟩ := isLive_iff_not_mem_deadOptions .german
  have told : wares ∈ tale.toList := by decide
  have back := (live wares told 1 (by decide)).mpr (by decide)
  have bought := mt (live wares told 0 (by decide)).mp (by decide)
  refine ⟨told, rfl, back, bought, ?_⟩
  rw [kept]
  rfl

/-- In no language can all of the story be seen, and no traveller ever leaves with the sword and
five gold. -/
theorem not_all_live :
    (¬ ∃ language, ∀ d ∈ tale.toList, ∀ position < d.options.length,
        IsLive language d.id position) ∧
      ¬ ∃ language lines,
        ((opening language).after lines).session.cast.player.gold = 5 ∧
          ((opening language).after lines).session.cast.player.items = ["sword"] := by
  constructor
  · rintro ⟨language, live⟩
    have bought : IsLive language wares.id 0 := live wares (by decide) 0 (by decide)
    exact not_isLive_of_mem_deadOptions (by decide) bought
  · rintro ⟨language, lines, gold, -⟩
    rw [cast_after] at gold
    exact absurd gold (by decide)

end Parley.Merchant
