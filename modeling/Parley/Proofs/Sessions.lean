/-
# Sessions show what may be seen

A run of a session is a list of requests in any order. `Session.trail` keeps each reply
beside the session that it leaves behind, so that a reply can be judged on the story and
the cast of that moment. Every reply that brings a screen presents them: no dialog is shown
or offered while its gate is shut, whatever was loaded, changed or answered before.
-/

import Mathlib
import Parley.Cast.Ledger
import Parley.Proofs.Engine.Screens
import Parley.Session

namespace Parley.Session

variable {N P W : Type} [Collaborator N] [Collaborator P] [WorldCollaborator W]

/-- The replies to requests in turn, each with the session that it leaves behind. -/
def trail (s : Session N P W) : List (Request N P W) → List (Reply × Session N P W)
  | [] => []
  | request :: rest =>
    (s.perform request).value :: (s.perform request).value.2.trail rest

theorem map_fst_trail (s : Session N P W) (requests : List (Request N P W)) :
    (s.trail requests).map Prod.fst = (s.performAll requests).value.1 := by
  induction requests generalizing s with
  | nil => rfl
  | cons request rest ih =>
      rw [trail, List.map_cons, ih]
      rfl

/-- A screen presents the story that is loaded to the cast of the session. -/
def Presents (s : Session N P W) (screen : Screen) : Prop :=
  ∃ g language, s.engine.graph? = some g ∧ s.engine.Presents g s.cast language screen

/-- A screen that an answer brings presents what the session is left with. -/
theorem presents_of_advance {s after : Session N P W} {shown : DialogId} {answer : Int32}
    {language : Language} {screen : Screen}
    (replied : (s.advance shown answer language).value = (.shown (some screen), after)) :
    after.Presents screen := by
  rw [advance, Traced.value_bind] at replied
  cases turned : (s.engine.advance s.cast shown answer language).value with
  | mk outcome cast =>
      rw [turned] at replied
      cases outcome with
      | error refusal => cases replied
      | ok screen? =>
          cases replied
          cases loaded : s.engine.graph? with
          | none =>
              rw [Engine.advance, loaded] at turned
              cases turned
          | some g => exact ⟨g, language, loaded, Engine.presents_of_advance loaded turned⟩

/-- A screen that a request brings presents what the session is left with. -/
theorem presents_of_perform {s after : Session N P W} {request : Request N P W} {screen : Screen}
    (replied : (s.perform request).value = (.shown (some screen), after)) :
    after.Presents screen := by
  cases request with
  | topics language =>
      obtain ⟨shown, rfl⟩ : (s.engine.topics s.cast language).value = some screen ∧
          { s with screen? := (s.engine.topics s.cast language).value } = after := by
        simpa [perform] using replied
      cases loaded : s.engine.graph? with
      | none =>
          rw [Engine.topics, loaded] at shown
          cases shown
      | some g => exact ⟨g, language, loaded, Engine.presents_of_topics loaded shown⟩
  | advance shown answer language => exact presents_of_advance replied
  | pick position language =>
      rw [perform] at replied
      cases picked : s.answerAt? position with
      | none =>
          rw [picked] at replied
          cases replied
      | some choice =>
          rw [picked] at replied
          exact presents_of_advance replied
  | answers subject language =>
      rw [perform] at replied
      cases found : s.subject? subject with
      | none =>
          rw [found] at replied
          cases replied
      | some d =>
          rw [found] at replied
          cases replied
  | load graph? => cases replied
  | configure settings => cases replied
  | status => cases replied
  | recast change => cases replied

/-- Along every run, every screen presents the story that is loaded to the cast that the
reply leaves behind. -/
theorem presents_of_mem_trail (s : Session N P W) (requests : List (Request N P W)) :
    ∀ step ∈ s.trail requests, ∀ screen, step.1 = .shown (some screen) →
      step.2.Presents screen := by
  induction requests generalizing s with
  | nil => exact fun step listed => by cases listed
  | cons request rest ih =>
      intro step listed screen replied
      rcases List.mem_cons.mp listed with rfl | later
      · exact presents_of_perform (Prod.ext replied rfl)
      · exact ih _ step later screen replied

/-- A story in two languages whose second dialog asks for a key, which the option that leads to
it hands over. -/
def doorway : Graph where
  dialogs :=
    { entries :=
        [(0, { (default : Dialog) with
            text := ((default : LocalizedText).set .english "Welcome").set .german "Willkommen"
            options :=
              [{ (default : DialogOption) with
                notifications := [⟨.player, ⟨"set", some "key", .none⟩⟩]
                destination := .dialog 1 }] }),
          (1, { (default : Dialog) with
            id := 1
            requirements := [⟨.player, ⟨"flag", some "key", .none⟩⟩] })]
      nodup := by decide }
  roots := [0]

/-- A session with a new engine that has loaded a story, and with empty books. -/
def beginning (g : Graph) : Session Ledger Ledger Ledger.World :=
  ⟨.telling g, Ledger.Books.empty, none⟩

/-- The gate of the second dialog is judged after the key was handed over. -/
theorem presents_in_doorway :
    ∃ step ∈ (beginning doorway).trail [.topics .english, .advance 0 0 .english],
      ∃ screen, step.1 = .shown (some screen) ∧ screen.id = 1 ∧
        step.2.cast.player.hasFlag "key" = true ∧ step.2.Presents screen := by
  have listed : (((beginning doorway).perform (.topics .english)).value.2.perform
      (.advance 0 0 .english)).value ∈
        (beginning doorway).trail [.topics .english, .advance 0 0 .english] :=
    List.mem_cons_of_mem _ List.mem_cons_self
  have replied : (((beginning doorway).perform (.topics .english)).value.2.perform
      (.advance 0 0 .english)).value.1 = .shown (some
        (.single 1 "<missing en text: unnamed>" "<missing en text: unnamed>" "" [])) := by
    cbv
  exact ⟨_, listed, _, replied, rfl, by cbv, presents_of_mem_trail _ _ _ listed _ replied⟩

end Parley.Session
