/-
# What screens show

Every screen that the engine returns is the presentation of something that the cast admits
at that moment: a single dialog with an answer for each option that can be chosen, or a
list of the roots that may be shown. `Engine.Presents` says so of a screen, a graph and a
cast. The cast is the one that the call leaves behind, since notifications may have
changed it before the gates were asked.
-/

import Parley.Engine
import Parley.Proofs.Engine.Gates
import Parley.Proofs.Search

namespace Parley

variable {N P W : Type} [Collaborator N] [Collaborator P] [WorldCollaborator W]

namespace Engine

/-- A new engine that has loaded a story. -/
def telling (g : Graph) : Engine := ((default : Engine).load (some g)).2

/-- The answers to a dialog: one for each option that can be chosen, in option order, which
names the position of its option. -/
def openAnswers (engine : Engine) (g : Graph) (cast : Cast N P W) (language : Language)
    (d : Dialog) : List Answer :=
  (d.options.zipIdx.filter fun place => g.Opens cast place.1).map fun place =>
    ⟨Int32.ofNat place.2, engine.localize place.1.text language, place.1.tag⟩

/-- The screen of a dialog, with the answers given. -/
def screenOf (engine : Engine) (language : Language) (d : Dialog) (answers : List Answer) :
    Screen :=
  .single d.id (engine.localize d.title language) (engine.localize d.text language) d.tag answers

/-- A screen presents a story to a cast: it shows a dialog that the cast admits, with the
answers to it or, if there are none, the one that closes; or it lists the roots that the
cast admits. -/
inductive Presents (engine : Engine) (g : Graph) (cast : Cast N P W) (language : Language) :
    Screen → Prop
  /-- A dialog with the options that can be chosen. -/
  | dialog {d : Dialog} (told : d ∈ g.toList) (admitted : cast.Admits d) :
      Presents engine g cast language
        (engine.screenOf language d (engine.openAnswers g cast language d))
  /-- A dialog without an option that can be chosen, and the answer that closes. -/
  | deadEnd {d : Dialog} (told : d ∈ g.toList) (admitted : cast.Admits d)
      (stuck : ∀ option ∈ d.options, ¬ g.Opens cast option)
      (offered : engine.settings.offersClosing = true) :
      Presents engine g cast language
        (engine.screenOf language d [engine.closingAnswer language])
  /-- The roots that may be shown. -/
  | topics : Presents engine g cast language
      (.topics ((g.rootDialogs.filter fun d => cast.Admits d).map (engine.topic language)))

variable {engine : Engine} {g : Graph} {cast : Cast N P W} {language : Language}

theorem value_offers (loaded : engine.graph? = some g) (option : DialogOption) :
    (engine.offers cast option).value = decide (g.Opens cast option) := by
  rw [Bool.eq_iff_iff, decide_eq_true_iff]
  unfold offers Graph.Opens Graph.next?
  cases option.destination with
  | ending => simp [Destination.id?]
  | dialog id =>
      cases found : g.get? id <;> simp [Destination.id?, loaded, found, Cast.value_admits]
  | redirect id =>
      cases found : g.get? id <;> simp [Destination.id?, loaded, found, Cast.value_admits]

theorem value_answersFrom (loaded : engine.graph? = some g) (position : Nat)
    (options : List DialogOption) :
    (engine.answersFrom cast language position options).value =
      ((options.zipIdx position).filter fun place => g.Opens cast place.1).map fun place =>
        ⟨Int32.ofNat place.2, engine.localize place.1.text language, place.1.tag⟩ := by
  induction options generalizing position with
  | nil => rfl
  | cons option rest ih =>
      by_cases opens : g.Opens cast option <;>
        simp [answersFrom, value_offers loaded, ih, opens]

theorem openAnswers_eq_nil_iff {d : Dialog} :
    engine.openAnswers g cast language d = [] ↔ ∀ option ∈ d.options, ¬ g.Opens cast option := by
  rw [openAnswers, List.map_eq_nil_iff, List.filter_eq_nil_iff]
  simp only [decide_eq_true_eq]
  constructor
  · intro shut option offered
    obtain ⟨position, found⟩ := List.mem_iff_getElem?.mp offered
    exact shut (option, position) (List.mem_zipIdx_iff_getElem?.mpr found)
  · intro shut place listed
    exact shut place.1 (List.fst_mem_of_mem_zipIdx listed)

theorem value_availableAnswers (loaded : engine.graph? = some g) (d : Dialog) :
    (engine.availableAnswers cast d language).value =
      if (engine.openAnswers g cast language d).isEmpty && engine.settings.offersClosing then
        [engine.closingAnswer language]
      else engine.openAnswers g cast language d := by
  have answers : (engine.answersFrom cast language 0 d.options).value = _ :=
    value_answersFrom loaded 0 d.options
  simp only [availableAnswers, loaded, Option.isNone_some, Bool.false_and, Bool.false_eq_true,
    ↓reduceIte]
  rw [Traced.value_bind, answers]
  unfold openAnswers
  split <;> rfl

/-- The screen of an admitted dialog presents it. -/
theorem presents_single (loaded : engine.graph? = some g) {d : Dialog} (told : d ∈ g.toList)
    (admitted : cast.Admits d) :
    engine.Presents g cast language (engine.single cast d language).value := by
  have screen : (engine.single cast d language).value =
      engine.screenOf language d (engine.availableAnswers cast d language).value := rfl
  rw [screen, value_availableAnswers loaded]
  split
  · rename_i closes
    rw [Bool.and_eq_true, List.isEmpty_iff, openAnswers_eq_nil_iff] at closes
    exact .deadEnd told admitted closes.1 closes.2
  · exact .dialog told admitted

theorem present?_eq_some {d : Dialog} {screen : Screen}
    (shown : (engine.present? cast d language).value = some screen) :
    cast.Admits d ∧ screen = (engine.single cast d language).value := by
  rw [present?, Traced.value_bind, Cast.value_admits] at shown
  split at shown
  · rename_i admitted
    cases shown
    exact ⟨of_decide_eq_true admitted, rfl⟩
  · cases shown

/-- A conversation begins with the one root that the cast admits, or with a list of them. -/
theorem topics_eq_screen (loaded : engine.graph? = some g) {screen : Screen}
    (shown : (engine.topics cast language).value = some screen) :
    (∃ d ∈ g.rootDialogs, cast.Admits d ∧ screen = (engine.single cast d language).value) ∨
      screen = .topics ((g.rootDialogs.filter fun d => cast.Admits d).map (engine.topic language)) := by
  rw [topics, loaded] at shown
  simp only [Traced.value_bind, Cast.value_admitted] at shown
  split at shown
  · cases shown
  · rename_i d only
    cases shown
    have listed : d ∈ g.rootDialogs.filter fun d => cast.Admits d := by
      rw [only]
      exact List.mem_singleton_self d
    obtain ⟨rooted, admitted⟩ := List.mem_filter.mp listed
    exact Or.inl ⟨d, rooted, of_decide_eq_true admitted, rfl⟩
  · cases shown
    exact Or.inr rfl

theorem value_topics_of_only (loaded : engine.graph? = some g) {d : Dialog}
    (only : (g.rootDialogs.filter fun d => cast.Admits d) = [d]) :
    (engine.topics cast language).value = some (engine.single cast d language).value := by
  rw [topics, loaded]
  simp only [Traced.value_bind, Cast.value_admitted, only]
  rfl

/-! ## What an answer can do -/

variable {shown : DialogId} {answer : Int32}

theorem advance_topicList (loaded : engine.graph? = some g) :
    engine.advance cast Screen.topicListId answer language = do
      let screen? ← engine.select cast g answer language
      return ⟨.ok screen?, cast⟩ := by
  rw [advance, loaded]
  simp only [↓reduceIte]

theorem advance_of_not_found (loaded : engine.graph? = some g) (single : shown ≠ Screen.topicListId)
    (missing : g.find? shown = none) :
    engine.advance cast shown answer language = do
      Traced.remark (.dialogNotFound shown)
      return ⟨.ok none, cast⟩ := by
  rw [advance, loaded]
  simp only [single, ↓reduceIte, missing]

theorem advance_of_option (loaded : engine.graph? = some g) (single : shown ≠ Screen.topicListId)
    {d : Dialog} (found : g.find? shown = some d) {option : DialogOption}
    (chosen : d.option? answer = some option) :
    engine.advance cast shown answer language = engine.choose cast g d option language := by
  rw [advance, loaded]
  simp only [single, ↓reduceIte, found, chosen]

theorem value_advance_of_no_option (loaded : engine.graph? = some g)
    (single : shown ≠ Screen.topicListId) {d : Dialog} (found : g.find? shown = some d)
    (chosen : d.option? answer = none) :
    (engine.advance cast shown answer language).value = ⟨.ok none, cast⟩ := by
  rw [advance, loaded]
  simp only [single, ↓reduceIte, found, chosen]
  split <;> rfl

theorem select_eq_some {picked : DialogId} {screen : Screen}
    (shown : (engine.select cast g picked language).value = some screen) :
    ∃ d, g.find? picked = some d ∧ (engine.present? cast d language).value = some screen := by
  unfold select at shown
  cases found : g.find? picked with
  | none =>
      rw [found] at shown
      cases shown
  | some d =>
      refine ⟨d, rfl, ?_⟩
      rw [found] at shown
      simp only [Traced.value_bind] at shown
      split at shown <;> exact shown

theorem choose_eq_screen {d : Dialog} {option : DialogOption} {screen : Screen}
    {after : Cast N P W}
    (turned : (engine.choose cast g d option language).value = ⟨.ok (some screen), after⟩) :
    ∃ next, g.next? option = some next ∧
      (cast.tellAll d option.notifications).value = .accepted after ∧
      (engine.present? after next language).value = some screen := by
  rw [choose, Traced.value_bind] at turned
  generalize (cast.tellAll d option.notifications).value = reaction at turned
  obtain ⟨left, refusal?⟩ := reaction
  cases refusal? with
  | some refusal => cases turned
  | none =>
      cases leads : g.next? option with
      | none =>
          rw [leads] at turned
          cases turned
      | some next =>
          rw [leads] at turned
          obtain ⟨presented, rfl⟩ : (engine.present? left next language).value = some screen ∧
              left = after := by simpa using turned
          exact ⟨next, rfl, rfl, presented⟩

/-- A screen that follows an answer was picked from a list of topics, or is the dialog that
the chosen option leads to, presented to the cast that its notifications left. -/
theorem advance_eq_screen (loaded : engine.graph? = some g) {screen : Screen} {after : Cast N P W}
    (turned : (engine.advance cast shown answer language).value = ⟨.ok (some screen), after⟩) :
    (shown = Screen.topicListId ∧ after = cast ∧ ∃ d, g.find? answer = some d ∧
        (engine.present? cast d language).value = some screen) ∨
      ∃ d option next, g.find? shown = some d ∧ d.option? answer = some option ∧
        g.next? option = some next ∧
        (cast.tellAll d option.notifications).value = .accepted after ∧
        (engine.present? after next language).value = some screen := by
  by_cases single : shown = Screen.topicListId
  · subst single
    rw [advance_topicList loaded] at turned
    obtain ⟨picked, rfl⟩ : (engine.select cast g answer language).value = some screen ∧
        cast = after := by simpa using turned
    obtain ⟨d, found, presented⟩ := select_eq_some picked
    exact Or.inl ⟨rfl, rfl, d, found, presented⟩
  · cases found : g.find? shown with
    | none =>
        rw [advance_of_not_found loaded single found] at turned
        cases turned
    | some d =>
        cases chosen : d.option? answer with
        | none =>
            rw [value_advance_of_no_option loaded single found chosen] at turned
            cases turned
        | some option =>
            rw [advance_of_option loaded single found chosen] at turned
            refine Or.inr ⟨d, option, ?_⟩
            obtain ⟨next, leads, accepted, presented⟩ := choose_eq_screen turned
            exact ⟨next, rfl, chosen, leads, accepted, presented⟩

/-! ## Every screen presents the story -/

theorem presents_of_topics (loaded : engine.graph? = some g) {screen : Screen}
    (shown : (engine.topics cast language).value = some screen) :
    engine.Presents g cast language screen := by
  rcases topics_eq_screen loaded shown with ⟨d, rooted, admitted, rfl⟩ | rfl
  · obtain ⟨root, -, found⟩ := List.mem_filterMap.mp rooted
    exact presents_single loaded (Graph.mem_toList_of_get?_eq_some found) admitted
  · exact .topics

/-- A screen that follows an answer presents the story to the cast that the turn left. -/
theorem presents_of_advance (loaded : engine.graph? = some g) {screen : Screen}
    {after : Cast N P W}
    (turned : (engine.advance cast shown answer language).value = ⟨.ok (some screen), after⟩) :
    engine.Presents g after language screen := by
  rcases advance_eq_screen loaded turned with ⟨-, rfl, d, found, shown⟩ |
    ⟨-, option, next, -, -, leads, -, shown⟩
  · obtain ⟨-, met, -, there⟩ := Graph.of_find?_eq_some found
    obtain ⟨admitted, rfl⟩ := present?_eq_some shown
    exact presents_single loaded (Graph.mem_toList_of_get?_eq_some there) admitted
  · obtain ⟨id, -, there⟩ := Option.bind_eq_some_iff.mp leads
    obtain ⟨admitted, rfl⟩ := present?_eq_some shown
    exact presents_single loaded (Graph.mem_toList_of_get?_eq_some there) admitted

end Engine

end Parley
