/-
# What a kinder cast opens

One cast eases a story for another when it meets every requirement of the story that the other
meets. Whatever the story opens to the stricter cast it then opens to the kinder one: dialogs may
still be shown, roots are still listed, options can still be chosen, and picks from a list of
topics still bring a screen. This goes for gates that ask for everything as well as for those that
any requirement opens, since neither of them asks that a requirement fail.

One thing goes the other way. The answer that closes a conversation is given when no option can be
chosen, so a kinder cast may take it away.
-/

import Mathlib
import Parley.Proofs.Engine.Shapes

namespace Parley

variable {N P W N' P' W' : Type} [Collaborator N] [Collaborator P] [WorldCollaborator W]
  [Collaborator N'] [Collaborator P'] [WorldCollaborator W']

/-- Every requirement of a story that the strict cast meets is met by the kind one. -/
def Graph.Eases (g : Graph) (strict : Cast N P W) (kind : Cast N' P' W') : Prop :=
  ∀ d ∈ g.toList, ∀ r ∈ d.requirements,
    strict.meets r.side r.condition = true → kind.meets r.side r.condition = true

instance (g : Graph) (strict : Cast N P W) (kind : Cast N' P' W') :
    Decidable (g.Eases strict kind) :=
  inferInstanceAs (Decidable (∀ d ∈ g.toList, ∀ r ∈ d.requirements,
    strict.meets r.side r.condition = true → kind.meets r.side r.condition = true))

theorem sublist_filter_of_imp {α : Type} {l : List α} {p q : α → Bool}
    (weaker : ∀ a ∈ l, p a = true → q a = true) : (l.filter p).Sublist (l.filter q) := by
  have twice : (l.filter q).filter p = l.filter p := by
    rw [List.filter_filter]
    apply List.filter_congr
    intro a listed
    specialize weaker a listed
    cases passes : p a
    · rfl
    · rw [weaker passes, Bool.and_self]
  exact twice ▸ List.filter_sublist

namespace Cast

/-- A gate stays open when no requirement of it fails that was met. -/
theorem Satisfies.mono {strict : Cast N P W} {kind : Cast N' P' W'}
    {requirements : List Requirement}
    (eased : ∀ r ∈ requirements,
      strict.meets r.side r.condition = true → kind.meets r.side r.condition = true)
    {mode : Mode} (satisfies : strict.Satisfies requirements mode) :
    kind.Satisfies requirements mode := by
  cases mode with
  | all =>
      intro r required
      exact eased r required (satisfies r required)
  | any =>
      obtain ⟨r, required, met⟩ := satisfies
      exact ⟨r, required, eased r required met⟩

end Cast

namespace Graph

variable {g : Graph} {strict : Cast N P W} {kind : Cast N' P' W'}

theorem Eases.admits (eases : g.Eases strict kind) {d : Dialog} (told : d ∈ g.toList)
    (admitted : strict.Admits d) : kind.Admits d :=
  Cast.Satisfies.mono (eases d told) admitted

theorem mem_toList_of_mem_rootDialogs {d : Dialog} (rooted : d ∈ g.rootDialogs) :
    d ∈ g.toList := by
  obtain ⟨root, -, found⟩ := List.mem_filterMap.mp rooted
  exact mem_toList_of_get?_eq_some found

theorem Eases.opens (eases : g.Eases strict kind) {option : DialogOption}
    (opens : g.Opens strict option) : g.Opens kind option := by
  rcases opens with ends | ⟨next, leads, admitted⟩
  · exact Or.inl ends
  · obtain ⟨id, -, found⟩ := Option.bind_eq_some_iff.mp leads
    exact Or.inr ⟨next, leads, eases.admits (mem_toList_of_get?_eq_some found) admitted⟩

end Graph

namespace Engine

/-- Whatever a story opens to the strict cast it opens to the kind one. -/
structure OpensNoLess (engine : Engine) (g : Graph) (strict : Cast N P W) (kind : Cast N' P' W')
    (language : Language) : Prop where
  shown : ∀ d ∈ g.toList, (strict.admits d).value = true → (kind.admits d).value = true
  listed : (strict.admitted g.rootDialogs).value.Sublist (kind.admitted g.rootDialogs).value
  /-- The answers other than the one that closes, by their indices. -/
  answered : ∀ d, ((engine.offered strict d language).filter (· ≠ Answer.closing)).Sublist
    ((engine.offered kind d language).filter (· ≠ Answer.closing))
  /-- Where an option can be chosen, no answer stands for the missing ones, and none is lost. -/
  kept : ∀ d, ∀ option ∈ d.options, g.Opens strict option →
    (engine.offered strict d language).Sublist (engine.offered kind d language)
  picked : ∀ id screen,
    (engine.advance strict Screen.topicListId id language).value.outcome = .ok (some screen) →
      ∃ other, (engine.advance kind Screen.topicListId id language).value.outcome =
        .ok (some other)
  /-- The answer that closes goes the other way. -/
  closed : ∀ d,
    engine.OffersClosing g kind language d (engine.availableAnswers kind d language).value →
      engine.OffersClosing g strict language d (engine.availableAnswers strict d language).value

variable {engine : Engine} {g : Graph} {strict : Cast N P W} {kind : Cast N' P' W'}
  {language : Language}

theorem sublist_openAnswers (eases : g.Eases strict kind) (d : Dialog) :
    (engine.openAnswers g strict language d).Sublist (engine.openAnswers g kind language d) := by
  apply List.Sublist.map
  apply sublist_filter_of_imp
  intro place _ opens
  exact decide_eq_true (eases.opens (of_decide_eq_true opens))

theorem offered_of_opens (loaded : engine.graph? = some g) {cast : Cast N P W} {d : Dialog}
    {option : DialogOption} (there : option ∈ d.options) (opens : g.Opens cast option) :
    engine.offered cast d language =
      (engine.openAnswers g cast language d).map Answer.index := by
  have some : engine.openAnswers g cast language d ≠ [] := fun none =>
    openAnswers_eq_nil_iff.mp none option there opens
  rw [offered, value_availableAnswers loaded]
  simp [some]

/-- The answer that closes is the only one that names no option. -/
theorem filter_offered (loaded : engine.graph? = some g) (cast : Cast N P W) (d : Dialog) :
    (engine.offered cast d language).filter (· ≠ Answer.closing) =
      ((engine.openAnswers g cast language d).map Answer.index).filter (· ≠ Answer.closing) := by
  rw [offered, value_availableAnswers loaded]
  split
  · rename_i closes
    rw [Bool.and_eq_true, List.isEmpty_iff] at closes
    rw [closes.1]
    rfl
  · rfl

theorem offersClosing_of_stuck (loaded : engine.graph? = some g) {cast : Cast N P W} {d : Dialog}
    (asked : engine.settings.offersClosing = true)
    (stuck : ∀ option ∈ d.options, ¬ g.Opens cast option) :
    engine.OffersClosing g cast language d (engine.availableAnswers cast d language).value := by
  refine ⟨?_, asked, stuck⟩
  rw [value_availableAnswers loaded, openAnswers_eq_nil_iff.mpr stuck, asked]
  rfl

theorem value_select (engine : Engine) (cast : Cast N P W) (g : Graph) (picked : DialogId)
    (language : Language) :
    (engine.select cast g picked language).value =
      (g.find? picked).bind fun d => (engine.present? cast d language).value := by
  unfold select
  cases g.find? picked with
  | none => rfl
  | some d =>
      rw [Traced.value_bind, Option.bind_some]
      dsimp only
      split <;> rfl

theorem exists_advance_of_eases (loaded : engine.graph? = some g) (eases : g.Eases strict kind)
    {picked : DialogId} {screen : Screen}
    (brought : (engine.advance strict Screen.topicListId picked language).value.outcome =
      .ok (some screen)) :
    ∃ other, (engine.advance kind Screen.topicListId picked language).value.outcome =
      .ok (some other) := by
  rw [advance_topicList loaded] at brought
  have selected : (engine.select strict g picked language).value = some screen :=
    Except.ok.inj brought
  obtain ⟨d, found, presented⟩ := select_eq_some selected
  obtain ⟨-, met, -, there⟩ := Graph.of_find?_eq_some found
  have admitted : kind.Admits d :=
    eases.admits (Graph.mem_toList_of_get?_eq_some there) (present?_eq_some presented).1
  refine ⟨(engine.single kind d language).value, ?_⟩
  rw [advance_topicList loaded]
  show Except.ok (engine.select kind g picked language).value = _
  rw [value_select, found, Option.bind_some, value_present?, if_pos admitted]

/-- A story with a gate that asks for a key and a lamp, and one that a key or a friend opens. -/
def gatehouse : Graph where
  dialogs :=
    { entries :=
        [(0, { (default : Dialog) with
            options :=
              [{ (default : DialogOption) with destination := .dialog 1 },
                { (default : DialogOption) with destination := .redirect 2 }] }),
          (1, { (default : Dialog) with
            id := 1
            requirements :=
              [⟨.player, ⟨"flag", some "key", .none⟩⟩, ⟨.player, ⟨"flag", some "lamp", .none⟩⟩] }),
          (2, { (default : Dialog) with
            id := 2
            mode := .any
            requirements :=
              [⟨.player, ⟨"flag", some "key", .none⟩⟩, ⟨.npc, ⟨"flag", some "friend", .none⟩⟩] })]
      nodup := by decide }
  roots := [2, 0, 2]

/-- What a story opens to a cast it opens to every kinder one. -/
theorem opensNoLess_of_eases (loaded : engine.graph? = some g) (eases : g.Eases strict kind)
    (language : Language) : engine.OpensNoLess g strict kind language where
  shown d told admitted := by
    rw [Cast.value_admits_iff] at admitted ⊢
    exact eases.admits told admitted
  listed := by
    rw [Cast.value_admitted, Cast.value_admitted]
    apply sublist_filter_of_imp
    intro d rooted admitted
    have told := Graph.mem_toList_of_mem_rootDialogs rooted
    exact decide_eq_true (eases.admits told (of_decide_eq_true admitted))
  answered d := by
    rw [filter_offered loaded, filter_offered loaded]
    exact ((sublist_openAnswers eases d).map Answer.index).filter _
  kept d option there opens := by
    rw [offered_of_opens loaded there opens, offered_of_opens loaded there (eases.opens opens)]
    exact (sublist_openAnswers eases d).map Answer.index
  picked _ _ := exists_advance_of_eases loaded eases
  closed d offers :=
    offersClosing_of_stuck loaded offers.asked fun option there opens =>
      offers.stuck option there (eases.opens opens)

/-- The key, where the player has had but the lamp, opens both gates of the gatehouse: the second
dialog is listed, before and behind the first, and the answer that closes gives way to both
options. -/
theorem opensNoLess_of_key :
    gatehouse.Eases (carrying ["lamp"]) (carrying ["lamp", "key"]) ∧
      (courteous gatehouse).OpensNoLess gatehouse (carrying ["lamp"]) (carrying ["lamp", "key"])
        .english ∧
      ((carrying ["lamp"]).admitted gatehouse.rootDialogs).value.map Dialog.id = [0] ∧
      ((carrying ["lamp", "key"]).admitted gatehouse.rootDialogs).value.map Dialog.id =
        [2, 0, 2] ∧
      ∃ d, gatehouse.get? 0 = some d ∧
        (courteous gatehouse).offered (carrying ["lamp"]) d .english = [-1] ∧
        (courteous gatehouse).offered (carrying ["lamp", "key"]) d .english = [0, 1] := by
  have eases : gatehouse.Eases (carrying ["lamp"]) (carrying ["lamp", "key"]) := by decide
  have loaded : (courteous gatehouse).graph? = some gatehouse := rfl
  exact ⟨eases, opensNoLess_of_eases loaded eases .english, by cbv, by cbv, _, rfl, by cbv, by cbv⟩

end Engine

end Parley
