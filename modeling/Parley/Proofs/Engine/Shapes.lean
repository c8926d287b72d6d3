/-
# The two shapes of a screen

One and the same number stands for what is no dialog and for an answer that chooses no option,
and an index is a position on one screen and a dialog on another. A game can tell them apart all
the same. A screen lists topics exactly if its id is the reserved one, and then each index is
that of a root. Any other screen shows a dialog, and its indices are positions of options that
rise from answer to answer, unless no option can be chosen and the one answer is the one that
closes.

A position is a number of 32 bits here, so that this asks for dialogs of fewer than `2 ^ 31`
options.
-/

import Mathlib
import Parley.Proofs.Engine.Offers
import Parley.Proofs.Engine.Topics

namespace Parley

variable {N P W : Type} [Collaborator N] [Collaborator P] [WorldCollaborator W]

/-- A screen lists topics: it bears the reserved id and says nothing itself, there is more than
one topic to choose from, and each is named by the id of a root. -/
structure Screen.ListsTopics (g : Graph) (screen : Screen) : Prop where
  listed : screen.isTopicList = true
  reserved : screen.id = topicListId
  untitled : screen.title = ""
  speechless : screen.text = ""
  untagged : screen.tag = ""
  several : 2 ≤ screen.answers.length
  rooted : ∀ answer ∈ screen.answers, answer.index ∈ g.roots ∧ 0 ≤ answer.index

/-- Answers name options of a dialog by their positions, one after the other. -/
structure Dialog.NamedBy (d : Dialog) (answers : List Answer) : Prop where
  rising : (answers.map Answer.index).Pairwise (· < ·)
  placed : ∀ answer ∈ answers, ∃ position < d.options.length, answer.index.toInt = position

namespace Engine

/-- No option of a dialog can be chosen, the settings offer a way out, and this is the only
answer. -/
structure OffersClosing (engine : Engine) (g : Graph) (cast : Cast N P W) (language : Language)
    (d : Dialog) (answers : List Answer) : Prop where
  alone : answers = [engine.closingAnswer language]
  asked : engine.settings.offersClosing = true
  stuck : ∀ option ∈ d.options, ¬ g.Opens cast option

/-- A screen shows a dialog: it bears the id of the dialog, and its answers name options of the
dialog or are the one that closes. -/
structure ShowsDialog (engine : Engine) (g : Graph) (cast : Cast N P W) (language : Language)
    (screen : Screen) (d : Dialog) : Prop where
  single : screen.isTopicList = false
  told : g.get? screen.id = some d
  nonneg : 0 ≤ screen.id
  answered : d.NamedBy screen.answers ∨ engine.OffersClosing g cast language d screen.answers

variable {engine : Engine} {g : Graph} {cast : Cast N P W} {language : Language}

/-! ## A dialog -/

theorem pairwise_lt_zipIdx {α : Type} (l : List α) (start : Nat) :
    (l.zipIdx start).Pairwise fun here there => here.2 < there.2 := by
  apply List.pairwise_map.mp
  rw [List.zipIdx_map_snd]
  exact List.pairwise_lt_range'

/-- The answers for options that can be chosen name them by their positions, as long as positions
fit into an index. -/
theorem namedBy_openAnswers (engine : Engine) (g : Graph) (cast : Cast N P W)
    (language : Language) {d : Dialog} (few : d.options.length < 2 ^ 31) :
    d.NamedBy (engine.openAnswers g cast language d) where
  rising := by
    -- Positions rise before they are made into indices. They keep their order only because each
    -- of them fits.
    have fits {place : DialogOption × Nat}
        (kept : place ∈ d.options.zipIdx.filter fun place => g.Opens cast place.1) :
        place.2 < 2 ^ 31 := by
      have there := List.mem_zipIdx_iff_getElem?.mp (List.mem_filter.mp kept).1
      exact Nat.lt_trans (List.getElem?_eq_some_iff.mp there).1 few
    rw [openAnswers, List.map_map, List.pairwise_map]
    apply List.Pairwise.imp_of_mem _ ((pairwise_lt_zipIdx d.options 0).filter _)
    intro here there keptHere keptThere before
    rw [Function.comp_apply, Function.comp_apply, Int32.lt_iff_toInt_lt,
      Int32.toInt_ofNat_of_lt (fits keptHere), Int32.toInt_ofNat_of_lt (fits keptThere)]
    exact_mod_cast before
  placed answer given := by
    obtain ⟨position, option, there, -, rfl⟩ := mem_openAnswers.mp given
    have inside := (List.getElem?_eq_some_iff.mp there).1
    exact ⟨position, inside, Int32.toInt_ofNat_of_lt (Nat.lt_trans inside few)⟩

/-- An answer that names an option does not close. -/
theorem closes_eq_false_of_namedBy {d : Dialog} {answers : List Answer}
    (named : d.NamedBy answers) {answer : Answer} (given : answer ∈ answers) :
    answer.closes = false := by
  obtain ⟨position, -, placed⟩ := named.placed answer given
  have nonneg : 0 ≤ answer.index := by
    rw [Int32.le_iff_toInt_le, placed]
    exact Int.natCast_nonneg position
  exact beq_eq_false_iff_ne.mpr (ne_reserved_of_nonneg nonneg)

theorem showsDialog_single (sound : g.dialogs.IsSound g.roots) (loaded : engine.graph? = some g)
    {d : Dialog} (there : g.get? d.id = some d) (few : d.options.length < 2 ^ 31) :
    engine.ShowsDialog g cast language (engine.single cast d language).value d where
  single := rfl
  told := there
  nonneg := sound.nonneg (OrderedMap.mem_of_get?_eq_some there)
  answered := by
    have given : (engine.single cast d language).value.answers =
        (engine.availableAnswers cast d language).value := rfl
    rw [given, value_availableAnswers loaded]
    split
    · rename_i closes
      rw [Bool.and_eq_true, List.isEmpty_iff, openAnswers_eq_nil_iff] at closes
      exact Or.inr ⟨rfl, closes.2, closes.1⟩
    · exact Or.inl (namedBy_openAnswers engine g cast language few)

/-! ## A list of topics -/

theorem topics_eq_topics (loaded : engine.graph? = some g) {answers : List Answer}
    (shown : (engine.topics cast language).value = some (.topics answers)) :
    answers = (g.admittedRoots cast).map (engine.topic language) ∧ 2 ≤ answers.length := by
  match admitted : g.admittedRoots cast with
  | [] =>
      rw [value_topics_of_none loaded admitted] at shown
      cases shown
  | [d] =>
      rw [value_topics_of_only loaded admitted] at shown
      cases shown
  | d :: e :: rest =>
      rw [value_topics_of_several loaded admitted, admitted] at shown
      obtain rfl := Screen.topics.inj (Option.some.inj shown)
      simp

theorem listsTopics_of_topics (sound : g.dialogs.IsSound g.roots) (loaded : engine.graph? = some g)
    {answers : List Answer}
    (shown : (engine.topics cast language).value = some (.topics answers)) :
    (Screen.topics answers).ListsTopics g where
  listed := rfl
  reserved := rfl
  untitled := rfl
  speechless := rfl
  untagged := rfl
  several := (topics_eq_topics loaded shown).2
  rooted answer given := by
    obtain ⟨rfl, -⟩ := topics_eq_topics loaded shown
    obtain ⟨d, admitted, rfl⟩ := List.mem_map.mp given
    have listed : d.id ∈ g.roots :=
      ((Graph.mem_rootDialogs_iff sound).mp (Graph.mem_admittedRoots_iff.mp admitted).1).1
    exact ⟨listed, sound.nonneg (sound.rooted listed)⟩

/-! ## Every screen -/

/-- Only the beginning of a conversation lists topics. -/
theorem topics_of_returns {call : Call} {answers : List Answer} {after : Cast N P W}
    (loaded : engine.graph? = some g)
    (returned : engine.Returns cast language call (.topics answers) after) :
    (engine.topics cast language).value = some (.topics answers) := by
  cases returned with
  | topics shown => exact shown
  | advance turned =>
      rcases advance_eq_screen loaded turned with ⟨-, -, d, -, shown⟩ | ⟨-, -, d, -, -, -, -, shown⟩
      · cases (present?_eq_some shown).2
      · cases (present?_eq_some shown).2

/-- Every screen lists topics or shows a dialog. -/
theorem listsTopics_or_showsDialog (sound : g.dialogs.IsSound g.roots)
    (few : ∀ {id d}, g.get? id = some d → d.options.length < 2 ^ 31)
    (loaded : engine.graph? = some g) {call : Call} {screen : Screen} {after : Cast N P W}
    (returned : engine.Returns cast language call screen after) :
    screen.ListsTopics g ∨ ∃ d, engine.ShowsDialog g after language screen d := by
  cases screen with
  | topics answers =>
      exact Or.inl (listsTopics_of_topics sound loaded (topics_of_returns loaded returned))
  | single id title text tag answers =>
      obtain ⟨d, comes, same⟩ := comesTo_of_returns loaded returned
      have there := comes.get?_eq_some sound
      rw [same]
      exact Or.inr ⟨d, showsDialog_single sound loaded there (few there)⟩

/-- A story that goes on to the chamber only. -/
def deadEnd : Graph where
  dialogs :=
    { entries :=
        [(0, { (default : Dialog) with
            options := [{ (default : DialogOption) with destination := .dialog 1 }] }),
          (1, chamber)]
      nodup := by decide }
  roots := [0]

/-- An engine that tells a story and offers a way out where it does not go on. -/
def courteous (g : Graph) : Engine := ⟨{ (default : Settings) with offersClosing := true }, some g⟩

/-- Every screen either lists topics or shows a dialog. It lists topics exactly if it bears the
reserved id, and an answer that closes is the one for a dialog without an option that can be
chosen, and stands alone. -/
theorem has_one_shape_of_returns {dialogs : List Dialog} {roots : List DialogId}
    (made : Graph.ofDialogs dialogs roots = .ok g)
    (few : ∀ d ∈ dialogs, d.options.length < 2 ^ 31) (loaded : engine.graph? = some g)
    {call : Call} {screen : Screen} {after : Cast N P W}
    (returned : engine.Returns cast language call screen after) :
    Xor (screen.ListsTopics g) (∃ d, engine.ShowsDialog g after language screen d) ∧
    (screen.isTopicList = true ↔ screen.id = Screen.topicListId) ∧
    ∀ answer ∈ screen.answers, answer.closes = true →
      screen.answers = [answer] ∧
        ∃ d, g.get? screen.id = some d ∧
          engine.OffersClosing g after language d screen.answers := by
  obtain ⟨lists, -, sound⟩ := Graph.ofDialogs_eq_ok_iff.mp made
  have fewer {id : DialogId} {d : Dialog} (found : g.get? id = some d) :
      d.options.length < 2 ^ 31 :=
    few d (lists.get?_eq_some_iff.mp found).1
  rcases listsTopics_or_showsDialog sound fewer loaded returned with topics | ⟨d, shows⟩
  · refine ⟨Or.inl ⟨topics, ?_⟩, iff_of_true topics.listed topics.reserved, ?_⟩
    · rintro ⟨d, shows⟩
      exact Bool.false_ne_true (shows.single.symm.trans topics.listed)
    · intro answer given closes
      exact absurd (eq_of_beq closes) (ne_reserved_of_nonneg (topics.rooted answer given).2)
  · have named : screen.id ≠ Screen.topicListId := ne_reserved_of_nonneg shows.nonneg
    refine ⟨Or.inr ⟨⟨d, shows⟩, ?_⟩, iff_of_false (by simp [shows.single]) named, ?_⟩
    · intro topics
      exact named topics.reserved
    · intro answer given closes
      rcases shows.answered with names | closing
      · rw [closes_eq_false_of_namedBy names given] at closes
        cases closes
      · obtain rfl : answer = engine.closingAnswer language :=
          List.mem_singleton.mp (closing.alone ▸ given)
        exact ⟨closing.alone, d, shows.told, closing⟩

/-- The story of two roots begins with a list of them. At the dead end, where a way out is
offered, the dialog is shown with the one answer that closes, and on the threshold with the second
and the third of its three options. -/
theorem has_one_shape_of_returns_at_dead_end :
    (∃ screen, (courteous pair).Returns Ledger.Books.empty .english .topics screen
        Ledger.Books.empty ∧ screen.ListsTopics pair) ∧
    (∃ screen, (courteous deadEnd).Returns Ledger.Books.empty .english .topics screen
        Ledger.Books.empty ∧ screen.id = 0 ∧ ∃ d,
          (courteous deadEnd).OffersClosing deadEnd Ledger.Books.empty .english d
            screen.answers) ∧
    ∃ screen, (courteous threshold).Returns Ledger.Books.empty .english (.advance 0 2) screen
        Ledger.Books.empty ∧ screen.answers.map Answer.index = [1, 2] ∧ ∃ d,
          (courteous threshold).ShowsDialog threshold Ledger.Books.empty .english screen d := by
  let unnamed := "<missing en text: unnamed>"
  have begun : (courteous pair).Returns Ledger.Books.empty .english .topics
      (.topics [⟨1, unnamed, ""⟩, ⟨0, unnamed, ""⟩]) Ledger.Books.empty := .topics (by cbv)
  have stuck : (courteous deadEnd).Returns Ledger.Books.empty .english .topics
      (.single 0 unnamed unnamed "" [⟨-1, "End Conversation", ""⟩]) Ledger.Books.empty :=
    .topics (by cbv)
  have back : (courteous threshold).Returns Ledger.Books.empty .english (.advance 0 2)
      (.single 0 unnamed unnamed "" [⟨1, unnamed, ""⟩, ⟨2, unnamed, ""⟩]) Ledger.Books.empty :=
    .advance (by cbv)
  have madePair : Graph.ofDialogs pair.toList [1, 0] = .ok pair := by cbv
  have madeDeadEnd : Graph.ofDialogs deadEnd.toList [0] = .ok deadEnd := by cbv
  have madeThreshold : Graph.ofDialogs threshold.toList [0] = .ok threshold := by cbv
  refine ⟨⟨_, begun, ?_⟩, ⟨_, stuck, rfl, ?_⟩, _, back, rfl, ?_⟩
  · obtain ⟨shape, -, -⟩ := has_one_shape_of_returns madePair (by decide) rfl begun
    rcases shape with ⟨topics, -⟩ | ⟨⟨d, shows⟩, -⟩
    · exact topics
    · cases shows.single
  · obtain ⟨-, -, closes⟩ := has_one_shape_of_returns madeDeadEnd (by decide) rfl stuck
    obtain ⟨-, d, -, closing⟩ := closes _ (List.mem_singleton_self _) rfl
    exact ⟨d, closing⟩
  · obtain ⟨shape, -, -⟩ := has_one_shape_of_returns madeThreshold (by decide) rfl back
    rcases shape with ⟨topics, -⟩ | ⟨shows, -⟩
    · cases topics.listed
    · exact shows

end Engine

end Parley
