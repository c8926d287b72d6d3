/-
# Where the engine's story comes from

A run of a host is a list of actions. Whatever they are, the story of the engine is one that
the saved asset held in a frame of the run, and no frame takes it away without another in its
place. A story that is written into an asset is in the engine two frames later, provided that
the asset is saved when the second of them begins and was not removed.
-/

import Parley.Proofs.Host.Frames

namespace Parley.Host

/-! ## Runs frame by frame -/

/-- An action with its frames written out. -/
def Action.inFrames : Action → List Action
  | settle => List.replicate settlingFrames .update
  | action => [action]

theorem performAll_replicate_update (host : Host) (count : Nat) :
    host.performAll (List.replicate count .update) = (frames count host).2 := by
  induction count generalizing host with
  | zero => rfl
  | succ count ih => exact ih host.frame.2

theorem performAll_inFrames (host : Host) (run : List Action) :
    host.performAll (run.flatMap Action.inFrames) = host.performAll run := by
  induction run generalizing host with
  | nil => rfl
  | cons action rest ih =>
      have one : host.performAll action.inFrames = (host.perform action).2.2 := by
        cases action with
        | settle => exact performAll_replicate_update host settlingFrames
        | _ => rfl
      rw [List.flatMap_cons, performAll_append, one, ih]
      rfl

theorem ne_settle_of_mem_inFrames {run : List Action} {action : Action}
    (listed : action ∈ run.flatMap Action.inFrames) : action ≠ .settle := by
  obtain ⟨source, -, written⟩ := List.mem_flatMap.mp listed
  rintro rfl
  cases source with
  | settle => cases List.eq_of_mem_replicate written
  | _ => cases List.mem_singleton.mp written

theorem mem_or_update_of_mem_inFrames {run : List Action} {action : Action}
    (listed : action ∈ run.flatMap Action.inFrames) : action ∈ run ∨ action = .update := by
  obtain ⟨source, there, written⟩ := List.mem_flatMap.mp listed
  cases source with
  | settle => exact Or.inr (List.eq_of_mem_replicate written)
  | _ => exact Or.inl (List.mem_singleton.mp written ▸ there)

theorem Action.timeless_or_update {action : Action} (framed : action ≠ .settle) :
    action.passesTime = false ∨ action = .update := by
  cases action with
  | update => exact Or.inr rfl
  | settle => exact absurd rfl framed
  | _ => exact Or.inl rfl

/-- What the actions of a run keep holds after it. Settling is a number of frames. -/
theorem performAll_induction {motive : Host → Prop} {host : Host} (start : motive host)
    (run : List Action) (step : ∀ host, ∀ action ∈ run.flatMap Action.inFrames, motive host →
      motive (host.perform action).2.2) : motive (host.performAll run) := by
  rw [← performAll_inFrames]
  generalize run.flatMap Action.inFrames = actions at step
  induction actions generalizing host with
  | nil => exact start
  | cons action rest ih =>
      have now := step host action List.mem_cons_self start
      exact ih now fun host action listed => step host action (List.mem_cons_of_mem _ listed)

/-! ## The engine's story -/

/-- No run takes the engine's story away. -/
theorem isSome_story_performAll (host : Host) (loaded : host.engine.graph?.isSome)
    (run : List Action) : (host.performAll run).engine.graph?.isSome := by
  refine performAll_induction (motive := fun host => host.engine.graph?.isSome) loaded run ?_
  intro host action listed loaded
  rcases Action.timeless_or_update (ne_settle_of_mem_inFrames listed) with timeless | rfl
  · rw [(sameFrame_perform host timeless).story]
    exact loaded
  · have ends : host.FrameEnds host.frame.1 (host.perform .update).2.2.engine.graph? :=
      frameEnds_frame host
    cases ends with
    | kept _ same => rw [same]; exact loaded
    | taken _ _ _ same => rw [same]; rfl
    | gone _ _ _ same => rw [same]; exact loaded

/-- A story stands in the saved asset at the moment of a frame at which events are read. -/
def Offers (host : Host) (g : Graph) : Prop :=
  ∃ handle, host.atReading.saved? = some handle ∧ host.atReading.assets.get? handle = some g

/-- The story that the engine tells after some actions is the one it told before, or one that
the saved asset held in a frame. -/
theorem story_performAll {host : Host} {actions : List Action} {g : Graph}
    (framed : ∀ action ∈ actions, action ≠ .settle)
    (told : (host.performAll actions).engine.graph? = some g) :
    host.engine.graph? = some g ∨ ∃ before after, actions = before ++ Action.update :: after ∧
      (host.performAll before).Offers g := by
  induction actions using List.reverseRecOn with
  | nil => exact Or.inl told
  | append_singleton actions action ih =>
      rw [performAll_append] at told
      have earlier (same : (host.performAll actions).engine.graph? = some g) :
          host.engine.graph? = some g ∨ ∃ before after,
            actions ++ [action] = before ++ Action.update :: after ∧
              (host.performAll before).Offers g := by
        rcases ih (fun action listed => framed action (List.mem_append_left _ listed)) same with
          first | ⟨before, after, split, offers⟩
        · exact Or.inl first
        · refine Or.inr ⟨before, after ++ [action], ?_, offers⟩
          rw [split, List.append_assoc, List.cons_append]
      rcases Action.timeless_or_update
        (framed action (List.mem_append_right _ (List.mem_singleton_self _))) with timeless | rfl
      · exact earlier ((sameFrame_perform _ timeless).story.symm.trans told)
      · cases frameEnds_frame (host.performAll actions) with
        | kept _ same => exact earlier (same.symm.trans told)
        | taken saved _ held same =>
            obtain rfl := Option.some.inj (same.symm.trans told)
            exact Or.inr ⟨actions, [], rfl, _, saved, held⟩
        | gone _ _ _ same => exact earlier (same.symm.trans told)

/-! ## How a change arrives -/

/-- An action writes a story into an asset: it adds the asset, or modifies one that is there. -/
inductive Writes (host : Host) : Action → Handle → Graph → Prop
  | add (name : String) (g : Graph) :
      Writes host (.add name g) (.added host.assets.serial) g
  | modify {name : String} {handle : Handle} (g : Graph) (named : host.named? name = some handle)
      (there : handle ∈ host.assets.stories) : Writes host (.modify name g) handle g

/-- An action removes an asset. -/
def Removes (host : Host) (action : Action) (handle : Handle) : Prop :=
  ∃ name, action = .remove name ∧ host.named? name = some handle

variable {host : Host} {action : Action} {handle : Handle} {g : Graph}

theorem Writes.stories_perform (writes : host.Writes action handle g) :
    (host.perform action).2.2.assets.stories = host.assets.stories.insert handle g := by
  cases writes with
  | add name => rfl
  | @modify name _ _ named there =>
      rw [perform, modify_of_mem named there g]

theorem Writes.changed_queued_perform (writes : host.Writes action handle g) :
    Changed (host.perform action).2.2.assets.queued handle := by
  cases writes with
  | add name => exact changed_concat rfl _
  | @modify name _ _ named there =>
      rw [perform, modify_of_mem named there g]
      exact changed_concat rfl _

theorem Writes.get?_perform (writes : host.Writes action handle g) :
    (host.perform action).2.2.assets.get? handle = some g := by
  rw [Assets.get?, writes.stories_perform, OrderedMap.get?_insert, if_pos rfl]

/-- What an action can do to the stories until the next frame. -/
inductive Touches (host : Host) (action : Action) : Prop
  | nothing (same : (host.perform action).2.2.assets.stories = host.assets.stories)
  | writes {handle : Handle} {g : Graph} (writes : host.Writes action handle g)
  | removes {handle : Handle} (removes : host.Removes action handle)
      (erased : (host.perform action).2.2.assets.stories = host.assets.stories.erase handle)

theorem touches_perform (host : Host) {action : Action} (timeless : action.passesTime = false) :
    host.Touches action := by
  cases action with
  | update => cases timeless
  | settle => cases timeless
  | add name g => exact .writes (.add name g)
  | modify name g =>
      rcases host.modify_cases name g with unchanged | ⟨handle, named, there, -⟩
      · apply Touches.nothing
        simp only [perform, unchanged]
      · exact .writes (.modify g named there)
  | remove name =>
      rcases host.remove_cases name with unchanged | ⟨handle, named, -, erased⟩
      · apply Touches.nothing
        simp only [perform, unchanged]
      · refine .removes ⟨name, rfl, named⟩ ?_
        simp only [perform, erased]
  | save name? => exact .nothing rfl
  | write path file => exact .nothing rfl
  | reload path =>
      obtain ⟨stories, state?, read⟩ := perform_reload_eq_withArrived host path
      apply Touches.nothing
      rw [read]
      rfl
  | configure settings => exact .nothing rfl

/-- At some point of a run, an action does something to the host of that moment. -/
def Sometime (host : Host) (actions : List Action) (does : Host → Action → Prop) : Prop :=
  ∃ before action after, actions = before ++ action :: after ∧ does (host.performAll before) action

theorem Sometime.append {does : Host → Action → Prop} {first : List Action}
    (once : host.Sometime first does) (later : List Action) :
    host.Sometime (first ++ later) does := by
  obtain ⟨before, action, after, split, done⟩ := once
  exact ⟨before, action, after ++ later, by rw [split, List.append_assoc, List.cons_append], done⟩

theorem sometime_last (host : Host) {does : Host → Action → Prop} (actions : List Action)
    (done : does (host.performAll actions) action) :
    host.Sometime (actions ++ [action]) does :=
  ⟨actions, action, [], rfl, done⟩

/-- The names that the game gave stand for assets that it added. -/
def NamesAdded (host : Host) : Prop :=
  ∀ name handle, host.names.get? name = some handle → ∃ serial, handle = .added serial

theorem names_frame (host : Host) : host.frame.2.names = host.names := by
  obtain ⟨saved?, stories, state?, begins⟩ := begun_eq_withArrived host
  rw [frame_eq, follow_snd_eq]
  show host.begun.names = host.names
  rw [begins]
  rfl

theorem namesAdded_of_names_eq {after : Host} (same : after.names = host.names)
    (added : host.NamesAdded) : after.NamesAdded := by
  unfold NamesAdded
  rw [same]
  exact added

theorem namesAdded_performAll (start : host.NamesAdded) (run : List Action) :
    (host.performAll run).NamesAdded := by
  apply performAll_induction start run
  intro host action listed added
  cases action with
  | update => exact namesAdded_of_names_eq (names_frame host) added
  | settle => exact absurd rfl (ne_settle_of_mem_inFrames listed)
  | add name g =>
      intro other handle named
      change (host.names.insert name (.added host.assets.serial)).get? other = some handle at named
      rw [OrderedMap.get?_insert] at named
      split at named
      · cases named
        exact ⟨_, rfl⟩
      · exact added other handle named
  | modify name g =>
      refine namesAdded_of_names_eq ?_ added
      rcases host.modify_cases name g with same | ⟨handle, -, -, replaced⟩
      · simp only [perform, same]
      · simp only [perform, replaced]
  | remove name =>
      refine namesAdded_of_names_eq ?_ added
      rcases host.remove_cases name with same | ⟨handle, -, -, erased⟩
      · simp only [perform, same]
      · simp only [perform, erased]
  | save name? => exact added
  | write path file => exact added
  | reload path =>
      obtain ⟨stories, state?, read⟩ := perform_reload_eq_withArrived host path
      rw [read]
      exact added
  | configure settings => exact added

/-- A story stays in an asset that the game added until the asset is written to or removed. -/
theorem get?_perform_added {serial : Nat} (framed : action ≠ .settle)
    (held : host.assets.get? (.added serial) = some g)
    (kept : ¬ host.Removes action (.added serial)) :
    ∃ latest, (host.perform action).2.2.assets.get? (.added serial) = some latest ∧
      (latest = g ∨ host.Writes action (.added serial) latest) := by
  rcases Action.timeless_or_update framed with timeless | rfl
  · unfold Assets.get? at held ⊢
    cases touches_perform host timeless with
    | nothing same =>
        rw [same]
        exact ⟨g, held, Or.inl rfl⟩
    | writes writes =>
        rw [writes.stories_perform, OrderedMap.get?_insert]
        split
        · rename_i hit
          exact ⟨_, rfl, Or.inr (hit ▸ writes)⟩
        · exact ⟨g, held, Or.inl rfl⟩
    | removes removes erased =>
        rw [erased, OrderedMap.get?_erase]
        split
        · rename_i hit
          exact absurd (hit ▸ removes) kept
        · exact ⟨g, held, Or.inl rfl⟩
  · refine ⟨g, ?_, Or.inl rfl⟩
    show host.frame.2.assets.get? (.added serial) = some g
    rw [assets_frame]
    exact (agreeOn_atReading host serial).story.trans held

theorem get?_performAll_added {serial : Nat} {actions : List Action}
    (framed : ∀ action ∈ actions, action ≠ .settle)
    (held : host.assets.get? (.added serial) = some g)
    (kept : ¬ host.Sometime actions fun host action => host.Removes action (.added serial)) :
    ∃ latest, (host.performAll actions).assets.get? (.added serial) = some latest ∧
      (latest = g ∨ host.Sometime actions fun host action =>
        ∃ other, host.Writes action (.added serial) other) := by
  induction actions using List.reverseRecOn with
  | nil => exact ⟨g, held, Or.inl rfl⟩
  | append_singleton actions action ih =>
      obtain ⟨before, now⟩ := List.forall_mem_append.mp framed
      obtain ⟨middle, there, origin⟩ := ih before fun removed => kept (removed.append [action])
      have stays := fun removes => kept (sometime_last host actions removes)
      obtain ⟨latest, after, written⟩ :=
        get?_perform_added (now action (List.mem_singleton_self _)) there stays
      rw [performAll_append]
      refine ⟨latest, after, ?_⟩
      rcases written with rfl | writes
      · rcases origin with rfl | wrote
        · exact Or.inl rfl
        · exact Or.inr (wrote.append [action])
      · exact Or.inr (sometime_last host actions ⟨latest, writes⟩)

theorem Writes.exists_added (added : host.NamesAdded) (writes : host.Writes action handle g) :
    ∃ serial, handle = .added serial := by
  cases writes with
  | add name => exact ⟨_, rfl⟩
  | modify _ named _ => exact added _ _ named

/-- An event that is queued is read in the second frame from then on. -/
theorem changed_sent_of_changed_queued {serial : Nat}
    (told : Changed host.assets.queued (.added serial)) {between later : List Action}
    (timeless : ∀ action ∈ between ++ later, action.passesTime = false) :
    (host.performAll (between ++ Action.update :: later)).started = true ∧
      Changed (host.performAll (between ++ Action.update :: later)).assets.sent
        (.added serial) := by
  obtain ⟨before, after⟩ := List.forall_mem_append.mp timeless
  have waiting : Changed (host.performAll between).assets.queued (.added serial) :=
    told.mono (sameFrame_performAll host before).queued
  have sent : Changed (host.performAll between).frame.2.assets.sent (.added serial) := by
    rw [assets_frame]
    exact (agreeOn_atReading _ serial).queued.mpr waiting
  have last := sameFrame_performAll (host.performAll between).frame.2 after
  have whole : host.performAll (between ++ Action.update :: later) =
      (host.performAll between).frame.2.performAll later := performAll_append _ _ _
  rw [whole, last.started, last.sent]
  exact ⟨started_frame _, sent⟩

/-- A story that was written is in the engine after the second frame, if the asset is saved by
then, unless it was removed or written to again. -/
theorem story_of_writes (added : host.NamesAdded) {change : Action}
    (writes : host.Writes change handle g) {between later : List Action}
    (timeless : ∀ action ∈ between ++ later, action.passesTime = false)
    (saved : ((host.perform change).2.2.performAll (between ++ Action.update :: later)).saved? =
      some handle)
    (kept : ¬ (host.perform change).2.2.Sometime (between ++ Action.update :: later)
      fun host action => host.Removes action handle) :
    ∃ latest,
      ((host.perform change).2.2.performAll
        (between ++ Action.update :: later ++ [Action.update])).engine.graph? = some latest ∧
      (latest = g ∨ (host.perform change).2.2.Sometime (between ++ Action.update :: later)
        fun host action => ∃ other, host.Writes action handle other) := by
  obtain ⟨serial, rfl⟩ := writes.exists_added added
  have framed : ∀ action ∈ between ++ Action.update :: later, action ≠ .settle := by
    rintro action listed rfl
    have written : Action.settle ∈ between ++ later := by simpa using listed
    cases timeless _ written
  obtain ⟨latest, held, origin⟩ := get?_performAll_added framed writes.get?_perform kept
  obtain ⟨started, sent⟩ := changed_sent_of_changed_queued writes.changed_queued_perform timeless
  rw [performAll_append]
  generalize (host.perform change).2.2.performAll (between ++ Action.update :: later) = last
    at saved held started sent
  have agree := agreeOn_atReading last serial
  have reading : last.atReading.saved? = some (.added serial) := by
    rw [atReading, begun_of_started started]
    exact saved
  refine ⟨latest, ?_, origin⟩
  show last.frame.2.engine.graph? = some latest
  rw [engine_frame, (follow_of_heard reading (agree.sent.mpr sent)).2, agree.story, held]
  rfl

/-! ## The engine and the saved asset -/

/-- How the engine's story comes about, after a run that led from one host to another. -/
structure KeepsPace (first : Host) (run : List Action) (host : Host) : Prop where
  /-- The story changes in frames only. -/
  still : ∀ action, action.passesTime = false →
    (host.perform action).2.2.engine.graph? = host.engine.graph?
  /-- In a frame, it becomes the story of the saved asset if an event tells of a change to that
  asset, and stays as it is if none does or the asset is gone. -/
  frame : host.FrameEnds host.frame.1 host.frame.2.engine.graph?
  /-- It stood in the saved asset in some frame of the run. -/
  origin : ∀ g, host.engine.graph? = some g → ∃ before after,
    run.flatMap Action.inFrames = before ++ Action.update :: after ∧
      (first.performAll before).Offers g
  /-- Once there is a story, there will always be one. -/
  lasting : host.engine.graph?.isSome → ∀ later, (host.performAll later).engine.graph?.isSome
  /-- A story that is written into an asset is in the engine after the second frame from then
  on, if the asset is saved by then and was not removed. It is the same one, unless the asset
  was written to again. -/
  arrival : ∀ change handle g, host.Writes change handle g → ∀ between later,
    (∀ action ∈ between ++ later, action.passesTime = false) →
    ((host.perform change).2.2.performAll (between ++ Action.update :: later)).saved? =
      some handle →
    (¬ (host.perform change).2.2.Sometime (between ++ Action.update :: later)
      fun host action => host.Removes action handle) →
    ∃ latest,
      ((host.perform change).2.2.performAll
        (between ++ Action.update :: later ++ [Action.update])).engine.graph? = some latest ∧
      (latest = g ∨ (host.perform change).2.2.Sometime (between ++ Action.update :: later)
        fun host action => ∃ other, host.Writes action handle other)

/-- Along every run of a new host, the engine keeps pace with the saved asset. -/
theorem keepsPace_performAll (settings : Settings) (path? : Option String)
    (files : OrderedMap String StoredFile) (run : List Action) :
    (new settings path? files).KeepsPace run ((new settings path? files).performAll run) where
  still action timeless := (sameFrame_perform _ timeless).story
  frame := frameEnds_frame _
  origin g told := by
    rw [← performAll_inFrames] at told
    rcases story_performAll (fun action listed => ne_settle_of_mem_inFrames listed) told with
      first | stood
    · cases first
    · exact stood
  lasting := isSome_story_performAll _
  arrival change handle g writes between later timeless saved kept := by
    have start : (new settings path? files).NamesAdded := by
      intro name handle named
      cases named
    exact story_of_writes (namesAdded_performAll start run) writes timeless saved kept

/-- A story of a single dialog. -/
def scene : Graph where
  dialogs := .ofList [(0, default)]
  roots := [0]

/-- A story that is put in the place of the saved one is told two frames later. -/
theorem keepsPace_scene :
    ((new default none ∅).performAll
      [.add "tale" default, .save (some "tale"), .update, .update, .modify "tale" scene,
        .update, .update]).engine.graph? = some scene := by
  have pace := keepsPace_performAll default none ∅
    [.add "tale" default, .save (some "tale"), .update, .update]
  have writes : ((new default none ∅).performAll
      [.add "tale" default, .save (some "tale"), .update, .update]).Writes
        (.modify "tale" scene) (.added 0) scene :=
    .modify scene (by decide) (by decide)
  have once {does : Host → Action → Prop} {host : Host}
      (never : ∀ host, ¬ does host .update) : ¬ host.Sometime [.update] does := by
    rintro ⟨before, action, after, split, done⟩
    have listed : action ∈ [Action.update] := by
      rw [split]
      simp
    obtain rfl := List.mem_singleton.mp listed
    exact never _ done
  obtain ⟨latest, told, same | rewritten⟩ := pace.arrival _ _ _ writes [] [] (by simp) (by decide)
    (once (by rintro host ⟨name, removes, -⟩; cases removes))
  · exact same ▸ told
  · exact absurd rewritten (once (by rintro host ⟨other, rewrites⟩; cases rewrites))

end Parley.Host
