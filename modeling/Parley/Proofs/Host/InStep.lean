/-
# When the engine is in step with the saved asset

An engine that does not yet tell the story of the saved asset is still in step with it as long
as it is going to hear of it: an event that tells of the asset has not been read yet. Frames
keep it in step, and so does whatever the game does to assets and files, since every change
queues an event. Only saving another handle can put it out of step. A handle that moves is no
event, and the events of its asset may have been read, and dropped, long before.

So after two frames in which nothing else happens, the engine tells the story of the saved
asset exactly if it was in step before them.
-/

import Parley.Proofs.Host.Runs

namespace Parley.Host

variable {host : Host} {handle : Handle}

/-- A change to an asset is still to be read. -/
def Awaits (host : Host) (handle : Handle) : Prop :=
  Changed host.assets.sent handle ∨ Changed host.assets.queued handle ∨
    handle = .file ∧ host.assets.arrived ≠ []

/-- The engine tells the story of the saved asset, if there is one. -/
def TellsSaved (host : Host) : Prop :=
  ∀ handle g, host.saved? = some handle → host.assets.get? handle = some g →
    host.engine.graph? = some g

/-- The engine tells the story of the saved asset, or a change to this asset is still to be
read. Before the first frame, what counts is the asset that is saved when it begins. -/
def InStep (host : Host) : Prop :=
  ∀ handle g, host.begun.saved? = some handle → host.begun.assets.get? handle = some g →
    host.begun.engine.graph? = some g ∨ host.begun.Awaits handle

/-! ## Frames -/

/-- Taking up stories changes nothing about an asset for which none wait. -/
theorem agreeOn_atReading_of_idle (idle : ¬ (handle = .file ∧ host.begun.assets.arrived ≠ [])) :
    Assets.AgreeOn handle host.begun.assets host.atReading.assets := by
  by_cases other : handle = .file
  · have none : host.begun.assets.arrived = [] := by
      by_contra waiting
      exact idle ⟨other, waiting⟩
    have same : host.atReading.assets = host.begun.assets := Assets.takeUp_of_arrived_nil none
    rw [same]
    exact Assets.agreeOn_refl _ _
  · exact Assets.agreeOn_takeUp other host.begun.assets

theorem saved?_frame (host : Host) : host.frame.2.saved? = host.begun.saved? := by
  rw [frame_eq, follow_snd_eq]
  rfl

theorem get?_frame (host : Host) (handle : Handle) :
    host.frame.2.assets.get? handle = host.atReading.assets.get? handle := by
  rw [assets_frame]
  rfl

theorem awaits_frame_iff :
    host.frame.2.Awaits handle ↔ Changed host.atReading.assets.queued handle := by
  have none : host.atReading.assets.arrived = [] := Assets.arrived_takeUp _
  unfold Awaits
  rw [assets_frame]
  simp [Changed, none]

/-- What was awaited is told after the frame, or is still awaited. -/
theorem told_or_awaits_frame {g : Graph} (saved : host.begun.saved? = some handle)
    (awaits : host.begun.Awaits handle) (held : host.frame.2.assets.get? handle = some g) :
    host.frame.2.engine.graph? = some g ∨ host.frame.2.Awaits handle := by
  rw [get?_frame] at held
  by_cases heard : Changed host.atReading.assets.sent handle
  · left
    have reading : host.atReading.saved? = some handle := saved
    rw [engine_frame, (follow_of_heard reading heard).2, held]
    rfl
  · right
    have idle : ¬ (handle = .file ∧ host.begun.assets.arrived ≠ []) := by
      rintro ⟨rfl, waiting⟩
      exact heard (Assets.changed_sent_takeUp_file waiting)
    have agree := agreeOn_atReading_of_idle idle
    rw [awaits_frame_iff, agree.queued]
    exact (awaits.resolve_left fun sent => heard (agree.sent.mpr sent)).resolve_right idle

/-- A frame in which nothing is awaited of the saved asset changes nothing about it. -/
theorem frame_of_not_awaits (saved : host.begun.saved? = some handle)
    (unawaited : ¬ host.begun.Awaits handle) :
    host.frame.2.assets.get? handle = host.begun.assets.get? handle ∧
      host.frame.2.engine = host.begun.engine ∧ ¬ host.frame.2.Awaits handle := by
  have agree := agreeOn_atReading_of_idle fun waiting => unawaited (Or.inr (Or.inr waiting))
  refine ⟨(get?_frame host handle).trans agree.story, ?_, ?_⟩
  · rw [engine_frame]
    apply follow_of_unheard
    intro other reading heard
    obtain rfl := Option.some.inj (saved.symm.trans reading)
    exact unawaited (Or.inl (agree.sent.mp heard))
  · rw [awaits_frame_iff, agree.queued]
    exact fun queued => unawaited (Or.inr (Or.inl queued))

theorem inStep_frame_iff : host.frame.2.InStep ↔ host.InStep := by
  unfold InStep
  rw [begun_of_started (started_frame host), saved?_frame]
  apply forall_congr'
  intro handle
  by_cases saved : host.begun.saved? = some handle
  · by_cases awaits : host.begun.Awaits handle
    · apply forall_congr'
      intro g
      simp only [saved, awaits, or_true, implies_true, iff_true]
      exact fun _ => told_or_awaits_frame saved awaits
    · obtain ⟨held, engine, unawaited⟩ := frame_of_not_awaits saved awaits
      rw [held, engine]
      simp only [unawaited, awaits]
  · simp only [saved, false_implies, implies_true]

/-- After two frames nothing is awaited any more. -/
theorem not_awaits_frame_frame (host : Host) (handle : Handle) :
    ¬ host.frame.2.frame.2.Awaits handle := by
  have none : host.frame.2.assets.arrived = [] := by
    rw [assets_frame]
    exact Assets.arrived_takeUp _
  have same : host.frame.2.atReading.assets = host.frame.2.assets := by
    rw [atReading, begun_of_started (started_frame host)]
    exact Assets.takeUp_of_arrived_nil none
  rw [awaits_frame_iff, same, assets_frame]
  rintro ⟨event, listed, -⟩
  cases listed

theorem tellsSaved_frame_frame_iff : host.frame.2.frame.2.TellsSaved ↔ host.InStep := by
  rw [← inStep_frame_iff, ← inStep_frame_iff]
  unfold InStep TellsSaved
  rw [begun_of_started (started_frame host.frame.2)]
  simp only [not_awaits_frame_frame, or_false]

/-! ## Between frames -/

theorem saved?_perform {action : Action} (timeless : action.passesTime = false)
    (unsaved : ∀ name?, action ≠ .save name?) :
    (host.perform action).2.2.saved? = host.saved? := by
  cases action with
  | update => cases timeless
  | settle => cases timeless
  | modify name g =>
      rcases host.modify_cases name g with same | ⟨other, -, -, replaced⟩
      · simp only [perform, same]
      · simp only [perform, replaced]
  | remove name =>
      rcases host.remove_cases name with same | ⟨other, -, -, erased⟩
      · simp only [perform, same]
      · simp only [perform, erased]
  | save name? => exact absurd rfl (unsaved name?)
  | reload path =>
      obtain ⟨stories, state?, read⟩ := perform_reload_eq_withArrived host path
      rw [read]
      rfl
  | _ => rfl

/-- A story that an action puts into an asset is awaited. -/
theorem held_or_awaits_perform {action : Action} (timeless : action.passesTime = false)
    {g : Graph} (held : (host.perform action).2.2.assets.get? handle = some g) :
    host.assets.get? handle = some g ∨ (host.perform action).2.2.Awaits handle := by
  unfold Assets.get? at held ⊢
  cases touches_perform host timeless with
  | nothing same => exact Or.inl (same ▸ held)
  | writes writes =>
      rw [writes.stories_perform, OrderedMap.get?_insert] at held
      split at held
      · rename_i hit
        exact Or.inr (Or.inr (Or.inl (hit ▸ writes.changed_queued_perform)))
      · exact Or.inl held
  | removes removes erased =>
      rw [erased, OrderedMap.get?_erase] at held
      split at held
      · cases held
      · exact Or.inl held

theorem Awaits.of_sameFrame {after : Host} (awaits : host.Awaits handle)
    (same : SameFrame host after) : after.Awaits handle := by
  rcases awaits with sent | queued | ⟨file, waiting⟩
  · exact Or.inl (same.sent ▸ sent)
  · exact Or.inr (Or.inl (queued.mono same.queued))
  · refine Or.inr (Or.inr ⟨file, fun none => waiting ?_⟩)
    exact List.prefix_nil.mp (none ▸ same.arrived)

/-- Before the first frame there is no story of the dialog file. -/
def Unfiled (host : Host) : Prop := host.started = false → host.assets.get? .file = none

theorem unfiled_perform {action : Action} (framed : action ≠ .settle)
    (unfiled : host.Unfiled) : (host.perform action).2.2.Unfiled := by
  rcases Action.timeless_or_update framed with timeless | rfl
  · intro fresh
    rw [(sameFrame_perform host timeless).started] at fresh
    have missing := unfiled fresh
    unfold Assets.get? at missing ⊢
    cases touches_perform host timeless with
    | nothing same => rw [same, missing]
    | writes writes =>
        rw [writes.stories_perform, OrderedMap.get?_insert]
        split
        · cases writes with
          | add name => contradiction
          | modify _ named there =>
              rename_i hit _
              exact absurd (hit ▸ there) (OrderedMap.get?_eq_none_iff.mp missing)
        · exact missing
    | removes removes erased =>
        rw [erased, OrderedMap.get?_erase]
        split
        · rfl
        · exact missing
  · intro fresh
    have begun : (host.perform .update).2.2.started = true := started_frame host
    rw [begun] at fresh
    cases fresh

/-- The saved handle stands until the game saves another: the first frame has begun, or it is
not going to save the dialog file. -/
def HandleStands (host : Host) : Prop := host.started = true ∨ host.path? = none

/-- Where the saved handle stands, beginning the first frame makes no difference. -/
theorem inStep_iff (stands : host.HandleStands) :
    host.InStep ↔ ∀ handle g, host.saved? = some handle → host.assets.get? handle = some g →
      host.engine.graph? = some g ∨ host.Awaits handle := by
  unfold InStep
  by_cases started : host.started = true
  · rw [begun_of_started started]
  · have begun : host.begun = { host with started := true } := by
      simp [Host.begun, start, started, stands.resolve_left started]
    rw [begun]
    rfl

/-- An engine is in step before the first frame if that frame is going to save the file. -/
theorem inStep_of_unfiled (unfiled : host.Unfiled) (moves : ¬ host.HandleStands) :
    host.InStep := by
  unfold HandleStands at moves
  rw [not_or, Bool.not_eq_true, ← ne_eq, Option.ne_none_iff_exists'] at moves
  obtain ⟨fresh, path, configured⟩ := moves
  obtain ⟨stories, state?, begins⟩ := start_eq_withArrived host
  have begun : host.begun = host.start.2 := by simp [Host.begun, fresh]
  intro handle g saved held
  have file : handle = .file := by
    rw [begun, begins] at saved
    simpa [withArrived, configured, eq_comm] using saved
  rw [file, (agreeOn_begun .file host).story, unfiled fresh] at held
  cases held

/-- What is done to assets and files leaves the engine in step. -/
theorem inStep_perform {action : Action} (framed : action ≠ .settle)
    (unsaved : ∀ name?, action ≠ .save name?) (unfiled : host.Unfiled) (inStep : host.InStep) :
    (host.perform action).2.2.InStep := by
  rcases Action.timeless_or_update framed with timeless | rfl
  · have same := sameFrame_perform host timeless
    have agree : (host.perform action).2.2.HandleStands ↔ host.HandleStands := by
      unfold HandleStands
      rw [same.started, same.path]
    by_cases stands : host.HandleStands
    · rw [inStep_iff stands] at inStep
      apply (inStep_iff (agree.mpr stands)).mpr
      intro handle g saved held
      rw [saved?_perform timeless unsaved] at saved
      rcases held_or_awaits_perform timeless held with stood | awaits
      · rcases inStep handle g saved stood with told | awaits
        · exact Or.inl (same.story.trans told)
        · exact Or.inr (awaits.of_sameFrame same)
      · exact Or.inr awaits
    · exact inStep_of_unfiled (unfiled_perform framed unfiled) (mt agree.mp stands)
  · exact inStep_frame_iff.mpr inStep

/-- Saving the handle of a name leaves the engine in step: it tells the story of that asset
already, or a change to it is still to be read, unless the first frame is going to save the
dialog file instead. -/
def SavesInStep (host : Host) (name? : Option String) : Prop :=
  host.HandleStands → ∀ handle g, name?.bind host.named? = some handle →
    host.assets.get? handle = some g → host.engine.graph? = some g ∨ host.Awaits handle

theorem inStep_save_iff (unfiled : host.Unfiled) (name? : Option String) :
    (host.perform (.save name?)).2.2.InStep ↔ host.SavesInStep name? := by
  by_cases stands : host.HandleStands
  · have after : (host.perform (.save name?)).2.2.HandleStands := stands
    rw [inStep_iff after, SavesInStep, forall_prop_of_true stands]
    rfl
  · have kept : (host.perform (.save name?)).2.2.Unfiled := unfiled_perform nofun unfiled
    apply iff_of_true (inStep_of_unfiled kept stands)
    intro now
    exact absurd now stands

/-! ## Runs -/

/-- Two frames in which nothing else happens. -/
def twoFrames : List Action := [.update, .update]

theorem unfiled_performAll (unfiled : host.Unfiled) (run : List Action) :
    (host.performAll run).Unfiled :=
  performAll_induction unfiled run fun _ _ listed kept =>
    unfiled_perform (ne_settle_of_mem_inFrames listed) kept

theorem inStep_performAll (unfiled : host.Unfiled) (inStep : host.InStep) {run : List Action}
    (unsaved : ∀ name?, .save name? ∉ run) : (host.performAll run).InStep := by
  refine (performAll_induction (motive := fun host => host.Unfiled ∧ host.InStep)
    ⟨unfiled, inStep⟩ run ?_).2
  rintro host action listed ⟨unfiled, inStep⟩
  have framed := ne_settle_of_mem_inFrames listed
  refine ⟨unfiled_perform framed unfiled, inStep_perform framed ?_ unfiled inStep⟩
  rintro name? rfl
  rcases mem_or_update_of_mem_inFrames listed with there | update
  · exact unsaved name? there
  · cases update

theorem unfiled_new (settings : Settings) (path? : Option String)
    (files : OrderedMap String StoredFile) : (new settings path? files).Unfiled :=
  fun _ => rfl

theorem inStep_new (settings : Settings) (path? : Option String)
    (files : OrderedMap String StoredFile) : (new settings path? files).InStep := by
  by_cases stands : (new settings path? files).HandleStands
  · apply (inStep_iff stands).mpr
    intro handle g saved
    cases saved
  · exact inStep_of_unfiled (unfiled_new settings path? files) stands

/-- After two frames in which nothing else happens, the engine tells the story of the saved
asset exactly if it was in step before them. It is in step at first, and nothing but saving
another handle puts it out of step. -/
theorem tellsSaved_iff_inStep (settings : Settings) (path? : Option String)
    (files : OrderedMap String StoredFile) :
    (new settings path? files).InStep ∧ ∀ run : List Action,
      (((new settings path? files).performAll (run ++ twoFrames)).TellsSaved ↔
        ((new settings path? files).performAll run).InStep) ∧
      (∀ more, (∀ name?, .save name? ∉ more) →
        ((new settings path? files).performAll run).InStep →
          ((new settings path? files).performAll (run ++ more)).InStep) ∧
      (∀ name?, ((new settings path? files).performAll (run ++ [Action.save name?])).InStep ↔
        ((new settings path? files).performAll run).SavesInStep name?) := by
  refine ⟨inStep_new settings path? files, ?_⟩
  intro run
  have unfiled := unfiled_performAll (unfiled_new settings path? files) run
  simp only [performAll_append]
  refine ⟨tellsSaved_frame_frame_iff, ?_, inStep_save_iff unfiled⟩
  intro more unsaved inStep
  exact inStep_performAll unfiled inStep unsaved

/-- A story that was added a frame before its handle is saved is told. -/
theorem tellsSaved_of_save_in_time :
    ((new default none ∅).performAll
      ([.add "tale" scene, .update, .save (some "tale")] ++ twoFrames)).TellsSaved := by
  obtain ⟨-, follows⟩ := tellsSaved_iff_inStep default none ∅
  have saves : ((new default none ∅).performAll [.add "tale" scene, .update]).SavesInStep
      (some "tale") := by
    intro _ handle g named held
    have same : some (Handle.added 0) = some handle := named
    obtain rfl := Option.some.inj same
    exact Or.inr (Or.inl ⟨.added (.added 0), by decide, rfl⟩)
  have inStep : ((new default none ∅).performAll
      ([.add "tale" scene, .update] ++ [Action.save (some "tale")])).InStep :=
    ((follows _).2.2 _).mpr saves
  apply (follows [.add "tale" scene, .update, .save (some "tale")]).1.mpr
  exact inStep

/-- A handle is saved two frames after its story was added. -/
def lateSave : List Action := [.add "tale" scene, .update, .update, .save (some "tale")]

/-- The saved handle moves, two frames after the other story was added. -/
def lateMove : List Action :=
  [.add "blank" default, .save (some "blank"), .add "tale" scene, .update, .update,
    .save (some "tale")]

theorem not_tellsSaved {g : Graph} (saved : host.saved? = some handle)
    (held : host.assets.get? handle = some g) (untold : host.engine.graph? ≠ some g) :
    ¬ host.TellsSaved :=
  fun tells => untold (tells handle g saved held)

/-- After a late save the engine tells no story, and after a late move the one of the asset that
was saved before. -/
theorem not_tellsSaved_late :
    ((new default none ∅).performAll (lateSave ++ twoFrames)).engine.graph? = none ∧
      ¬ ((new default none ∅).performAll (lateSave ++ twoFrames)).TellsSaved ∧
      ((new default none ∅).performAll (lateMove ++ twoFrames)).engine.graph? =
        some default ∧
      ¬ ((new default none ∅).performAll (lateMove ++ twoFrames)).TellsSaved := by
  have silent : ((new default none ∅).performAll
      (lateSave ++ twoFrames)).engine.graph? = none := by decide
  have stale : ((new default none ∅).performAll
      (lateMove ++ twoFrames)).engine.graph? = some default := by decide
  refine ⟨silent, ?_, stale, ?_⟩
  · refine not_tellsSaved (g := scene) (show _ = some (Handle.added 0) by decide) (by decide) ?_
    rw [silent]
    exact nofun
  · refine not_tellsSaved (g := scene) (show _ = some (Handle.added 1) by decide) (by decide) ?_
    rw [stale]
    decide

end Parley.Host
