/-
# What is offered is what leads on

Whether an option can be chosen is decided twice: once when the answers to a dialog are listed,
and again when one of them is handed back. For options that hand out nothing the two agree. An
option that ends the conversation is always offered and ends it. Any other option is offered
exactly if choosing it brings the screen of the dialog that it leads to, and comes to nothing
otherwise.

Options that hand out notifications can change the cast in between, and then the gate of the
next dialog may open or shut.
-/

import Mathlib
import Parley.Proofs.Engine.Effects

namespace Parley

variable {N P W : Type} [Collaborator N] [Collaborator P] [WorldCollaborator W]

/-- Positions that fit into an index have indices of their own. -/
theorem Answer.ofNat_inj_of_lt {here there : Nat} (small : here < 2 ^ 31)
    (alsoSmall : there < 2 ^ 31) : Int32.ofNat here = Int32.ofNat there ↔ here = there := by
  constructor
  · intro same
    have value := congrArg Int32.toInt same
    rw [Int32.toInt_ofNat_of_lt small, Int32.toInt_ofNat_of_lt alsoSmall] at value
    exact_mod_cast value
  · exact congrArg Int32.ofNat

/-- No position has the index of the answer that closes. -/
theorem Answer.ofNat_ne_closing {position : Nat} (small : position < 2 ^ 31) :
    Int32.ofNat position ≠ Answer.closing :=
  ne_reserved_of_nonneg (Int32.zero_le_ofNat_of_lt small)

/-- In a sound story every option that does not end the conversation leads to a dialog. -/
theorem Graph.exists_next?_eq_some {g : Graph} (sound : g.dialogs.IsSound g.roots) {id : DialogId}
    {d : Dialog} (there : g.get? id = some d) {option : DialogOption} (offered : option ∈ d.options)
    (leadsOn : option.destination ≠ .ending) : ∃ next, g.next? option = some next := by
  obtain ⟨target, leads⟩ : ∃ target, option.destination.id? = some target := by
    cases destination : option.destination with
    | ending => exact absurd destination leadsOn
    | dialog target => exact ⟨target, rfl⟩
    | redirect target => exact ⟨target, rfl⟩
  have present : target ∈ g.dialogs := sound.linked ⟨d, there, option, offered, rfl⟩ leads
  obtain ⟨next, found⟩ := OrderedMap.mem_iff_exists_get?.mp present
  exact ⟨next, Option.bind_eq_some_iff.mpr ⟨target, leads, found⟩⟩

theorem Graph.opens_iff_admits {g : Graph} {cast : Cast N P W} {option : DialogOption}
    {next : Dialog} (leads : g.next? option = some next) :
    g.Opens cast option ↔ cast.Admits next := by
  have leadsOn : option.destination ≠ .ending := by
    intro ends
    rw [next?, ends] at leads
    cases leads
  simp [Opens, leadsOn, leads]

namespace Engine

variable {engine : Engine} {g : Graph} {cast : Cast N P W} {language : Language}

/-- The indices under which answers to a dialog can be given now. -/
def offered (engine : Engine) (cast : Cast N P W) (d : Dialog) (language : Language) :
    List Int32 :=
  (engine.availableAnswers cast d language).value.map Answer.index

/-- A position is offered exactly if its option can be chosen. -/
theorem ofNat_mem_offered_iff (loaded : engine.graph? = some g) {d : Dialog}
    (few : d.options.length ≤ 2 ^ 31) {position : Nat} {option : DialogOption}
    (there : d.options[position]? = some option) :
    Int32.ofNat position ∈ engine.offered cast d language ↔ g.Opens cast option := by
  have fits {position : Nat} {option : DialogOption} (there : d.options[position]? = some option) :
      position < 2 ^ 31 :=
    Nat.lt_of_lt_of_le (List.getElem?_eq_some_iff.mp there).1 few
  constructor
  · intro listed
    obtain ⟨answer, given, index⟩ := List.mem_map.mp listed
    rw [value_availableAnswers loaded] at given
    split at given
    · obtain rfl := List.mem_singleton.mp given
      exact absurd index.symm (Answer.ofNat_ne_closing (fits there))
    · obtain ⟨other, option', elsewhere, opens, rfl⟩ := mem_openAnswers.mp given
      obtain rfl := (Answer.ofNat_inj_of_lt (fits elsewhere) (fits there)).mp index
      rw [there] at elsewhere
      exact Option.some.inj elsewhere ▸ opens
  · intro opens
    exact List.mem_map.mpr ⟨_, mem_availableAnswers_of_opens loaded there opens, rfl⟩

/-- An option without notifications leads on to the cast as it is. -/
theorem value_choose_of_silent {d : Dialog} {option : DialogOption}
    (silent : option.notifications = []) :
    (engine.choose cast g d option language).value =
      ⟨.ok ((g.next? option).bind fun next => (engine.present? cast next language).value),
        cast⟩ := by
  rw [choose, silent]
  cases leads : g.next? option <;> simp [Cast.tellAll, Reaction.accepted]

/-- A dialog with a way on, a way out, and a way back to itself. -/
def doorstep : Dialog :=
  { (default : Dialog) with
    options :=
      [{ (default : DialogOption) with destination := .dialog 1 }, default,
        { (default : DialogOption) with destination := .redirect 0 }] }

/-- A dialog that asks for a key. -/
def chamber : Dialog :=
  { (default : Dialog) with
    id := 1
    requirements := [⟨.player, ⟨"flag", some "key", .none⟩⟩] }

/-- A story in which the way on from the doorstep leads to the chamber. -/
def threshold : Graph where
  dialogs := { entries := [(0, doorstep), (1, chamber)], nodup := by decide }
  roots := [0]

/-- An option that hands out nothing and ends the conversation is always offered and ends it.
Where it leads to a dialog instead, it is offered exactly if choosing it brings the screen of that
dialog, and choosing it comes to nothing if it is not offered. -/
theorem offered_iff_leads {dialogs : List Dialog} {roots : List DialogId}
    (made : Graph.ofDialogs dialogs roots = .ok g) (loaded : engine.graph? = some g) {d : Dialog}
    (found : g.find? d.id = some d) (few : d.options.length ≤ 2 ^ 31) {position : Nat}
    {option : DialogOption} (there : d.options[position]? = some option)
    (silent : option.notifications = []) (cast : Cast N P W) (offering taking : Language) :
    (option.destination = .ending →
      Int32.ofNat position ∈ engine.offered cast d offering ∧
        (engine.advance cast d.id (Int32.ofNat position) taking).value = ⟨.ok none, cast⟩) ∧
    (option.destination ≠ .ending → ∃ next, g.next? option = some next ∧
      (Int32.ofNat position ∈ engine.offered cast d offering ↔
        (engine.advance cast d.id (Int32.ofNat position) taking).value =
          ⟨.ok (some (engine.single cast next taking).value), cast⟩) ∧
      (Int32.ofNat position ∉ engine.offered cast d offering →
        (engine.advance cast d.id (Int32.ofNat position) taking).value = ⟨.ok none, cast⟩)) := by
  obtain ⟨-, -, sound⟩ := Graph.ofDialogs_eq_ok_iff.mp made
  obtain ⟨-, present⟩ := (Graph.find?_eq_some_iff sound).mp found
  have small : position < 2 ^ 31 := Nat.lt_of_lt_of_le (List.getElem?_eq_some_iff.mp there).1 few
  have chosen : d.option? (Int32.ofNat position) = some option :=
    (d.option?_ofNat small).trans there
  have opens : Int32.ofNat position ∈ engine.offered cast d offering ↔ g.Opens cast option :=
    ofNat_mem_offered_iff loaded few there
  have turned : (engine.advance cast d.id (Int32.ofNat position) taking).value =
      ⟨.ok ((g.next? option).bind fun next => (engine.present? cast next taking).value), cast⟩ := by
    rw [advance_of_option loaded (ne_topicListId sound present) found chosen]
    exact value_choose_of_silent silent
  constructor
  · intro ends
    have nowhere : g.next? option = none := by rw [Graph.next?, ends]; rfl
    refine ⟨opens.mpr (Or.inl ends), ?_⟩
    rw [turned, nowhere]
    rfl
  · intro leadsOn
    obtain ⟨next, leads⟩ :=
      Graph.exists_next?_eq_some sound present (List.mem_of_getElem? there) leadsOn
    rw [Graph.opens_iff_admits leads] at opens
    rw [leads, Option.bind_some, value_present?] at turned
    refine ⟨next, leads, ?_, ?_⟩
    · rw [opens, turned]
      by_cases admits : cast.Admits next <;> simp [admits]
    · intro closed
      rw [turned, if_neg (mt opens.mpr closed)]

/-- Without the key the way on is not offered and comes to nothing. The way out and the way back
are offered, and the way back brings the doorstep, in whatever language it is taken. -/
theorem offered_iff_leads_on_threshold :
    (telling threshold).offered Ledger.Books.empty doorstep .english = [1, 2] ∧
      ((telling threshold).advance Ledger.Books.empty 0 0 .german).value =
        ⟨.ok none, Ledger.Books.empty⟩ ∧
      ((telling threshold).advance Ledger.Books.empty 0 1 .german).value =
        ⟨.ok none, Ledger.Books.empty⟩ ∧
      ((telling threshold).advance Ledger.Books.empty 0 2 .german).value =
        ⟨.ok (some ((telling threshold).single Ledger.Books.empty doorstep .german).value),
          Ledger.Books.empty⟩ := by
  have made : Graph.ofDialogs threshold.toList [0] = .ok threshold := by cbv
  have found : threshold.find? doorstep.id = some doorstep := by cbv
  have few : doorstep.options.length ≤ 2 ^ 31 := by decide
  have listed : (telling threshold).offered Ledger.Books.empty doorstep .english = [1, 2] := by cbv
  have loaded : (telling threshold).graph? = some threshold := rfl
  have onward : doorstep.options[0]? =
      some { (default : DialogOption) with destination := .dialog 1 } := rfl
  have out : doorstep.options[1]? = some default := rfl
  have back : doorstep.options[2]? =
      some { (default : DialogOption) with destination := .redirect 0 } := rfl
  refine ⟨listed, ?_, ?_, ?_⟩
  · obtain ⟨next, -, -, closed⟩ := (offered_iff_leads made loaded found few onward rfl
      Ledger.Books.empty .english .german).2 (by decide)
    exact closed (by rw [listed]; decide)
  · exact ((offered_iff_leads made loaded found few out rfl
      Ledger.Books.empty .english .german).1 rfl).2
  · obtain ⟨next, leads, opened, -⟩ := (offered_iff_leads made loaded found few back rfl
      Ledger.Books.empty .english .german).2 (by decide)
    obtain rfl : doorstep = next := Option.some.inj leads
    exact opened.mp (by rw [listed]; decide)

end Engine

end Parley
