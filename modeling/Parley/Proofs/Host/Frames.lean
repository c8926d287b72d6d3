/-
# What a frame does to the engine

Between two frames nothing that is done to a host reaches the engine's story: changes only
queue up. `SameFrame` collects what stays as it is until the next frame. In a frame, the host
is first brought to the moment at which its events are read, `atReading`: the first frame has
begun and the stories that arrived are taken up. All that the engine can then get is the
story of the saved asset, as it stands at that moment, and only if an event tells of it.
-/

import Mathlib
import Parley.Host.Action

namespace Parley

/-! ## Events and stories of one asset -/

/-- Some of the events tell of a change to an asset. -/
def Changed (events : List AssetEvent) (handle : Handle) : Prop :=
  ∃ event ∈ events, event.changed? = some handle

theorem changed_concat {event : AssetEvent} {handle : Handle}
    (tells : event.changed? = some handle) (events : List AssetEvent) :
    Changed (events ++ [event]) handle :=
  ⟨event, List.mem_append_right events (List.mem_singleton_self event), tells⟩

theorem Changed.mono {first later : List AssetEvent} {handle : Handle}
    (changed : Changed first handle) (kept : first <+: later) : Changed later handle := by
  obtain ⟨event, listed, tells⟩ := changed
  exact ⟨event, kept.subset listed, tells⟩

namespace Assets

/-- Nothing about an asset differs: neither its story nor whether events tell of it. -/
structure AgreeOn (handle : Handle) (before after : Assets) : Prop where
  story : after.get? handle = before.get? handle
  sent : Changed after.sent handle ↔ Changed before.sent handle
  queued : Changed after.queued handle ↔ Changed before.queued handle

theorem agreeOn_refl (handle : Handle) (assets : Assets) : AgreeOn handle assets assets :=
  ⟨rfl, .rfl, .rfl⟩

theorem AgreeOn.trans {handle : Handle} {first middle last : Assets}
    (early : AgreeOn handle first middle) (late : AgreeOn handle middle last) :
    AgreeOn handle first last :=
  ⟨late.story.trans early.story, late.sent.trans early.sent, late.queued.trans early.queued⟩

variable {assets : Assets} {handle : Handle}

/-- Putting a story of the dialog file in its place is no matter of other assets. -/
theorem agreeOn_putFile (other : handle ≠ .file) (assets : Assets) (g : Graph) :
    AgreeOn handle assets (assets.putFile g) where
  story := by simp [putFile, get?, OrderedMap.get?_insert, other]
  sent := by simp [putFile, Changed, AssetEvent.changed?, other.symm]
  queued := by
    unfold putFile
    split <;> simp [Changed, AssetEvent.changed?, other.symm]

/-- What holds without the waiting stories and is kept by putting one in its place holds when
they are taken up. -/
theorem takeUp_induction {motive : Assets → Prop} (start : motive { assets with arrived := [] })
    (step : ∀ between g, motive between → motive (between.putFile g)) : motive assets.takeUp :=
  List.foldlRecOn assets.arrived putFile start fun between kept g _ => step between g kept

theorem agreeOn_takeUp (other : handle ≠ .file) (assets : Assets) :
    AgreeOn handle assets assets.takeUp := by
  apply takeUp_induction
  · exact ⟨rfl, .rfl, .rfl⟩
  · intro between g agree
    exact agree.trans (agreeOn_putFile other between g)

theorem takeUp_of_arrived_nil (none : assets.arrived = []) : assets.takeUp = assets := by
  obtain ⟨stories, serial, arrived, queued, sent⟩ := assets
  subst none
  rfl

@[simp] theorem arrived_takeUp (assets : Assets) : assets.takeUp.arrived = [] := by
  apply takeUp_induction (motive := fun between => between.arrived = [])
  · rfl
  · intro between g none
    exact none

/-- A story that is taken up is reported at once. -/
theorem changed_sent_takeUp_file (waiting : assets.arrived ≠ []) :
    Changed assets.takeUp.sent .file := by
  have told (between : Assets) (g : Graph) : Changed (between.putFile g).sent .file :=
    changed_concat rfl between.sent
  obtain ⟨g, rest, some⟩ := List.exists_cons_of_ne_nil waiting
  rw [takeUp, some, List.foldl_cons]
  apply List.foldlRecOn (motive := fun between : Assets => Changed between.sent .file) rest putFile
  · exact told _ g
  · intro between _ g _
    exact told between g

end Assets

namespace Host

variable {host : Host} {handle : Handle}

/-! ## Until the next frame -/

/-- Whether an action lets frames pass. -/
def Action.passesTime : Action → Bool
  | update => true
  | settle => true
  | _ => false

/-- Nothing happens between two hosts that would need a frame: the engine tells the same story,
the events that were sent are not read, and what waits for the next frame goes on waiting. -/
structure SameFrame (host after : Host) : Prop where
  story : after.engine.graph? = host.engine.graph?
  started : after.started = host.started
  path : after.path? = host.path?
  sent : after.assets.sent = host.assets.sent
  queued : host.assets.queued <+: after.assets.queued
  arrived : host.assets.arrived <+: after.assets.arrived

theorem sameFrame_refl (host : Host) : SameFrame host host :=
  ⟨rfl, rfl, rfl, rfl, List.prefix_rfl, List.prefix_rfl⟩

theorem SameFrame.trans {first middle last : Host} (early : SameFrame first middle)
    (late : SameFrame middle last) : SameFrame first last where
  story := late.story.trans early.story
  started := late.started.trans early.started
  path := late.path.trans early.path
  sent := late.sent.trans early.sent
  queued := early.queued.trans late.queued
  arrived := early.arrived.trans late.arrived

/-- The host with more stories of the dialog file that wait to be taken up. -/
def withArrived (host : Host) (stories : List Graph) (state? : Option LoadState) : Host :=
  { host with
    assets := { host.assets with arrived := host.assets.arrived ++ stories }
    fileState? := state? }

theorem withArrived_nil (host : Host) : host.withArrived [] host.fileState? = host := by
  simp [withArrived]

/-- All that reading a file can do is to let stories wait. -/
theorem readFile_eq_withArrived (host : Host) (location : Location) (file : StoredFile) :
    ∃ stories state?, (host.readFile location file).2 = host.withArrived stories state? := by
  unfold readFile
  cases file.load with
  | error error =>
      dsimp only
      split
      · exact ⟨[], host.fileState?, (withArrived_nil host).symm⟩
      · exact ⟨[], some .failed, by simp [withArrived]⟩
  | ok g =>
      dsimp only
      split
      · exact ⟨[], host.fileState?, (withArrived_nil host).symm⟩
      · exact ⟨[g], some .loaded, rfl⟩

theorem perform_reload_eq_withArrived (host : Host) (path : String) :
    ∃ stories state?, (host.perform (.reload path)).2.2 = host.withArrived stories state? := by
  dsimp only [perform, reload]
  split
  · exact readFile_eq_withArrived host _ _
  · exact ⟨[], host.fileState?, (withArrived_nil host).symm⟩
  · exact ⟨[], host.fileState?, (withArrived_nil host).symm⟩

/-- The first frame saves the dialog file, if one is configured, and may let stories of it
wait. -/
theorem start_eq_withArrived (host : Host) :
    ∃ stories state?, host.start.2 = { host with
      started := true
      saved? := host.path?.elim host.saved? fun _ => some .file }.withArrived stories state? := by
  unfold start
  cases configured : host.path? with
  | none => exact ⟨[], host.fileState?, by simp [withArrived]⟩
  | some path =>
      dsimp only
      split
      · exact ⟨[], some .failed, by simp [withArrived]⟩
      · exact ⟨[], some .loading, by simp [withArrived]⟩
      · rename_i file _
        obtain ⟨stories, state?, read⟩ := readFile_eq_withArrived
          { host with
            started := true
            saved? := some .file
            fileState? := some .loading } (Location.ofString path) file
        exact ⟨stories, state?, by simpa [withArrived, configured] using read⟩

theorem sameFrame_withArrived (host : Host) (stories : List Graph) (state? : Option LoadState) :
    SameFrame host (host.withArrived stories state?) :=
  ⟨rfl, rfl, rfl, rfl, List.prefix_rfl, List.prefix_append _ _⟩

theorem modify_of_mem {name : String} (named : host.named? name = some handle)
    (there : handle ∈ host.assets.stories) (g : Graph) :
    host.modify name g = (true, { host with assets := { host.assets with
      stories := host.assets.stories.insert handle g
      queued := host.assets.queued ++ [.modified handle] } }) := by
  simp only [modify, named, Assets.modify, there, ↓reduceIte]

/-- Modifying finds no asset and does nothing, or replaces a story and queues an event. -/
theorem modify_cases (host : Host) (name : String) (g : Graph) :
    host.modify name g = (false, host) ∨
      ∃ handle, host.named? name = some handle ∧ handle ∈ host.assets.stories ∧
        host.modify name g = (true, { host with assets := { host.assets with
          stories := host.assets.stories.insert handle g
          queued := host.assets.queued ++ [.modified handle] } }) := by
  cases named : host.named? name with
  | none =>
      left
      simp only [modify, named]
  | some handle =>
      by_cases there : handle ∈ host.assets.stories
      · right
        exact ⟨handle, rfl, there, modify_of_mem named there g⟩
      · left
        simp only [modify, named, Assets.modify, there, ↓reduceIte]

/-- Removing finds no asset and does nothing, or erases a story and queues an event. -/
theorem remove_cases (host : Host) (name : String) :
    host.remove name = (false, host) ∨
      ∃ handle, host.named? name = some handle ∧ handle ∈ host.assets.stories ∧
        host.remove name = (true, { host with assets := { host.assets with
          stories := host.assets.stories.erase handle
          queued := host.assets.queued ++ [.removed handle] } }) := by
  cases named : host.named? name with
  | none =>
      left
      simp only [remove, named]
  | some handle =>
      by_cases there : handle ∈ host.assets.stories
      · right
        refine ⟨handle, rfl, there, ?_⟩
        simp only [remove, named, Assets.remove, there, ↓reduceIte]
      · left
        simp only [remove, named, Assets.remove, there, ↓reduceIte]

theorem sameFrame_perform (host : Host) {action : Action} (timeless : action.passesTime = false) :
    SameFrame host (host.perform action).2.2 := by
  cases action with
  | update => cases timeless
  | settle => cases timeless
  | add name g => exact ⟨rfl, rfl, rfl, rfl, List.prefix_append _ _, List.prefix_rfl⟩
  | modify name g =>
      rcases host.modify_cases name g with same | ⟨handle, -, -, replaced⟩
      · simp only [perform, same]
        exact sameFrame_refl host
      · simp only [perform, replaced]
        exact ⟨rfl, rfl, rfl, rfl, List.prefix_append _ _, List.prefix_rfl⟩
  | remove name =>
      rcases host.remove_cases name with same | ⟨handle, -, -, erased⟩
      · simp only [perform, same]
        exact sameFrame_refl host
      · simp only [perform, erased]
        exact ⟨rfl, rfl, rfl, rfl, List.prefix_append _ _, List.prefix_rfl⟩
  | save name? => exact ⟨rfl, rfl, rfl, rfl, List.prefix_rfl, List.prefix_rfl⟩
  | write path file => exact ⟨rfl, rfl, rfl, rfl, List.prefix_rfl, List.prefix_rfl⟩
  | reload path =>
      obtain ⟨stories, state?, read⟩ := perform_reload_eq_withArrived host path
      rw [read]
      exact sameFrame_withArrived host stories state?
  | configure settings => exact ⟨rfl, rfl, rfl, rfl, List.prefix_rfl, List.prefix_rfl⟩

theorem performAll_append (host : Host) (first later : List Action) :
    host.performAll (first ++ later) = (host.performAll first).performAll later :=
  List.foldl_append

theorem sameFrame_performAll (host : Host) {actions : List Action}
    (timeless : ∀ action ∈ actions, action.passesTime = false) :
    SameFrame host (host.performAll actions) := by
  induction actions generalizing host with
  | nil => exact sameFrame_refl host
  | cons action rest ih =>
      obtain ⟨now, later⟩ := List.forall_mem_cons.mp timeless
      exact (sameFrame_perform host now).trans (ih _ later)

/-! ## One frame -/

/-- The host with its first frame begun, if it had not. -/
def begun (host : Host) : Host := if host.started then host else host.start.2

/-- The host at the moment of a frame at which its events are read. -/
def atReading (host : Host) : Host := { host.begun with assets := host.begun.assets.takeUp }

@[simp] theorem begun_of_started (started : host.started = true) : host.begun = host :=
  if_pos started

/-- Beginning the first frame may move the saved handle to the dialog file and let stories of
it wait. -/
theorem begun_eq_withArrived (host : Host) :
    ∃ saved? stories state?, host.begun = { host with
      started := true
      saved? }.withArrived stories state? := by
  unfold begun
  split
  · rename_i started
    exact ⟨host.saved?, [], host.fileState?, by simp [withArrived, ← started]⟩
  · obtain ⟨stories, state?, begins⟩ := start_eq_withArrived host
    exact ⟨_, stories, state?, begins⟩

theorem frame_eq (host : Host) :
    host.frame = ((if host.started then [] else host.start.1) ++ host.atReading.follow.1,
      { host.atReading.follow.2 with assets := host.atReading.follow.2.assets.flush }) := by
  by_cases started : host.started <;> simp [frame, atReading, begun, started]

/-- What reading the events leaves: they are gone, and only the engine may have changed. -/
theorem follow_snd_eq (host : Host) :
    host.follow.2 = { host with
      assets := { host.assets with sent := [] }
      engine := host.follow.2.engine } := by
  unfold follow
  cases host.saved? with
  | none => rfl
  | some handle =>
      dsimp only
      split <;> rfl

theorem follow_of_unheard
    (unheard : ∀ handle, host.saved? = some handle → ¬ Changed host.assets.sent handle) :
    host.follow.2.engine = host.engine := by
  unfold follow
  cases saved : host.saved? with
  | none => rfl
  | some handle =>
      dsimp only
      split
      · rename_i heard
        exact absurd (by simpa [Changed, Assets.read] using heard) (unheard handle saved)
      · rfl

theorem follow_of_heard (saved : host.saved? = some handle)
    (heard : Changed host.assets.sent handle) :
    host.follow.1 = [(host.assets.get? handle).elim .savedStoryGone fun g => .engineLoaded g.size] ∧
      host.follow.2.engine.graph? = (host.assets.get? handle).or host.engine.graph? := by
  have any : host.assets.sent.any (·.changed? = some handle) = true := by
    simpa [Changed] using heard
  unfold follow
  rw [saved]
  dsimp only [Assets.read]
  rw [if_pos any]
  exact ⟨rfl, rfl⟩

theorem started_begun (host : Host) : host.begun.started = true := by
  obtain ⟨saved?, stories, state?, begins⟩ := begun_eq_withArrived host
  rw [begins]
  rfl

theorem engine_begun (host : Host) : host.begun.engine = host.engine := by
  obtain ⟨saved?, stories, state?, begins⟩ := begun_eq_withArrived host
  rw [begins]
  rfl

theorem agreeOn_begun (handle : Handle) (host : Host) :
    Assets.AgreeOn handle host.assets host.begun.assets := by
  obtain ⟨saved?, stories, state?, begins⟩ := begun_eq_withArrived host
  rw [begins]
  exact ⟨rfl, .rfl, .rfl⟩

/-- What the game added is the same at the moment of reading as before the frame. -/
theorem agreeOn_atReading (host : Host) (serial : Nat) :
    Assets.AgreeOn (.added serial) host.assets host.atReading.assets :=
  (agreeOn_begun _ host).trans (Assets.agreeOn_takeUp (by simp) host.begun.assets)

theorem engine_frame (host : Host) : host.frame.2.engine = host.atReading.follow.2.engine := by
  rw [frame_eq]

theorem started_frame (host : Host) : host.frame.2.started = true := by
  rw [frame_eq, follow_snd_eq]
  exact started_begun host

/-- A frame sends what was queued and leaves nothing queued and nothing waiting. -/
theorem assets_frame (host : Host) :
    host.frame.2.assets = { host.atReading.assets with
      sent := host.atReading.assets.queued
      queued := [] } := by
  rw [frame_eq, follow_snd_eq]
  simp [Assets.flush]

/-- How the engine's story can come out of a frame. -/
inductive FrameEnds (host : Host) (notices : List Notice) (story? : Option Graph) : Prop
  /-- No asset is saved, or no event tells of a change to it. -/
  | kept
      (unheard : ∀ handle, host.atReading.saved? = some handle →
        ¬ Changed host.atReading.assets.sent handle)
      (same : story? = host.engine.graph?)
  /-- An event tells of the saved asset, and its story of this frame is taken. -/
  | taken {handle : Handle} {g : Graph} (saved : host.atReading.saved? = some handle)
      (heard : Changed host.atReading.assets.sent handle)
      (there : host.atReading.assets.get? handle = some g) (same : story? = some g)
      (reported : .engineLoaded g.size ∈ notices)
  /-- An event tells of the saved asset, which is gone. -/
  | gone {handle : Handle} (saved : host.atReading.saved? = some handle)
      (heard : Changed host.atReading.assets.sent handle)
      (missing : host.atReading.assets.get? handle = none) (same : story? = host.engine.graph?)
      (reported : .savedStoryGone ∈ notices)

theorem frameEnds_frame (host : Host) :
    host.FrameEnds host.frame.1 host.frame.2.engine.graph? := by
  have engine : host.atReading.engine = host.engine := engine_begun host
  rw [engine_frame, frame_eq]
  by_cases heard : ∃ handle, host.atReading.saved? = some handle ∧
      Changed host.atReading.assets.sent handle
  · obtain ⟨handle, saved, heard⟩ := heard
    obtain ⟨notices, story⟩ := follow_of_heard saved heard
    rw [notices, story]
    cases held : host.atReading.assets.get? handle with
    | none =>
        refine .gone saved heard held ?_ (List.mem_append_right _ (List.mem_singleton_self _))
        rw [Option.none_or, engine]
    | some g =>
        exact .taken saved heard held rfl (List.mem_append_right _ (List.mem_singleton_self _))
  · have unheard : ∀ handle, host.atReading.saved? = some handle →
        ¬ Changed host.atReading.assets.sent handle :=
      fun handle saved told => heard ⟨handle, saved, told⟩
    refine .kept unheard ?_
    rw [follow_of_unheard unheard, engine]

end Host

end Parley
