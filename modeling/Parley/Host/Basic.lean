/-
# Hosts

A host is the application that an engine runs in. It keeps stories as assets, saves the
handle of one of them, and keeps the engine in step with it: whenever an event tells of
a change to the saved asset, the engine loads the story that the asset holds by then.
Where the asset is gone, the engine keeps the story it has.

Time passes in frames. The first one begins with loading the dialog file, if one is
configured. In every frame the stories read from the file are taken up, then the events
sent before are read, and then those queued since are sent, so a change that the game
makes reaches the engine in the second frame after it. A change of the saved handle
alone is no event and reaches the engine with the next change of the asset.
-/

import Parley.Engine
import Parley.Format.DialogFile
import Parley.Host.Assets
import Parley.Host.Location

namespace Parley

/-- What the storage holds under a path. -/
inductive StoredFile where
  | content (bytes : List UInt8)
  /-- A file that cannot be read, for this reason. -/
  | broken (reason : String)
deriving DecidableEq

/-- The story in a file of the storage. -/
def StoredFile.load : StoredFile → Except LoadError Graph
  | content bytes => DialogFile.decode bytes
  | broken reason => .error (.unreadable reason)

/-- What comes of seeking a file. -/
inductive Opening where
  | opened (file : StoredFile)
  /-- There is no such file, or it is no dialog file. -/
  | refused
  /-- There is a file, but its name does not tell what it is. -/
  | unanswered

/-- How far the loading of the dialog file has come. -/
inductive LoadState where
  /-- It has begun, and nothing has ended it. -/
  | loading
  | loaded
  | failed
deriving DecidableEq, Repr

/-- What a host reports. -/
inductive Notice where
  /-- There is no dialog file to load. -/
  | noFileConfigured
  /-- The dialog file is going to be loaded. -/
  | loadingFile (path : String)
  | fileRead (count : Nat) (path : String)
  /-- The dialog file holds no story. -/
  | fileRefused (error : LoadError)
  | engineLoaded (count : Nat)
  /-- The saved story changed, but it is gone. -/
  | savedStoryGone
deriving DecidableEq, Repr

def Notice.line : Notice → LogLine
  | noFileConfigured =>
    ⟨.warning, "no saved dialogs file configured, no dialogs will be available"⟩
  | loadingFile path => ⟨.info, "loading saved dialogs from " ++ path⟩
  | fileRead count path => ⟨.debug, "loaded " ++ toString count ++ " dialogs from " ++ path⟩
  | fileRefused error => ⟨.error, "loader: " ++ error.message⟩
  | engineLoaded count =>
    ⟨.info, "conversation engine loaded " ++ toString count ++ " dialogs"⟩
  | savedStoryGone => ⟨.error, "saved dialogs changed but the graph is not available"⟩

/-- An application with an engine. -/
structure Host where
  engine : Engine
  path? : Option String
  /-- The asset that the engine is kept in step with. -/
  saved? : Option Handle
  assets : Assets
  /-- The handles of the stories that the game added, by the names it gave them. -/
  names : OrderedMap String Handle
  files : OrderedMap String StoredFile
  /-- How far the loading of the dialog file has come, once it has begun. -/
  fileState? : Option LoadState
  /-- Whether the first frame has begun. -/
  started : Bool
deriving DecidableEq

namespace Host

/-- A host before its first frame. -/
def new (settings : Settings) (path? : Option String) (files : OrderedMap String StoredFile) :
    Host :=
  { engine := ⟨settings, none⟩
    path?
    saved? := none
    assets := ∅
    names := ∅
    files
    fileState? := none
    started := false }

/-- Seeks the file at a location in the storage of the game. -/
def seek (host : Host) (location : Location) : Opening :=
  match if location.storage?.isNone then host.files.get? location.path else none with
  | none => .refused
  | some file =>
    match location.isDialogFile? with
    | none => .unanswered
    | some true => .opened file
    | some false => .refused

/-- Reads a file that was opened at a location. A reading that fails leaves the story of an
earlier one in its place. A dialog file has no parts: where a part is meant, the file is
read and nothing comes of it. -/
def readFile (host : Host) (location : Location) (file : StoredFile) : List Notice × Host :=
  let (notice, after) := match file.load with
    | .error error => (Notice.fileRefused error, { host with fileState? := some .failed })
    | .ok g =>
      (Notice.fileRead g.size location.path,
        { host with assets := host.assets.arrive g, fileState? := some .loaded })
  ([notice], if location.part?.isSome then host else after)

/-- Begins to load the dialog file, and saves its handle in place of any other. A file that
is refused fails without a notice, and one that gives no answer goes on loading. -/
def start (host : Host) : List Notice × Host :=
  let started := { host with started := true }
  match host.path? with
  | none => ([.noFileConfigured], started)
  | some path =>
    let location := Location.ofString path
    let loading := { started with saved? := some .file, fileState? := some .loading }
    let (notices, after) := match host.seek location with
      | .refused => ([], { loading with fileState? := some .failed })
      | .unanswered => ([], loading)
      | .opened file => loading.readFile location file
    (.loadingFile path :: notices, after)

/-- Reads the events that were sent, and if one tells of a change to the saved asset, lets
the engine load the story that the asset holds now. -/
def follow (host : Host) : List Notice × Host :=
  let (events, assets) := host.assets.read
  let read := { host with assets }
  match host.saved? with
  | none => ([], read)
  | some handle =>
    if events.any (·.changed? = some handle) then
      let story? := assets.get? handle
      let notice := story?.elim Notice.savedStoryGone fun g => .engineLoaded g.size
      ([notice], { read with engine := (host.engine.load story?).2 })
    else ([], read)

def frame (host : Host) : List Notice × Host :=
  let (startNotices, host) := if host.started then ([], host) else host.start
  let (followNotices, host) := { host with assets := host.assets.takeUp }.follow
  (startNotices ++ followNotices, { host with assets := host.assets.flush })

def frames : Nat → Host → List Notice × Host
  | 0, host => ([], host)
  | count + 1, host =>
    let (notices, next) := host.frame
    let (others, last) := frames count next
    (notices ++ others, last)

/-- How the saved asset was loaded, if it comes from a file. -/
def loadState? (host : Host) : Option LoadState :=
  if host.saved? = some .file then host.fileState? else none

/-- The handle of a story that the game added, by name. -/
def named? (host : Host) (name : String) : Option Handle := host.names.get? name

/-- Adds a story under a name, which may have stood for another story before. -/
def add (host : Host) (name : String) (g : Graph) : Host :=
  let (handle, assets) := host.assets.add g
  { host with assets, names := host.names.insert name handle }

/-- Replaces a story by name, and tells whether it was there. -/
def modify (host : Host) (name : String) (g : Graph) : Bool × Host :=
  match host.named? name with
  | none => (false, host)
  | some handle =>
    let (found, assets) := host.assets.modify handle g
    (found, { host with assets })

/-- Removes a story by name, and tells whether it was there. The name still stands for
its handle. -/
def remove (host : Host) (name : String) : Bool × Host :=
  match host.named? name with
  | none => (false, host)
  | some handle =>
    let (found, assets) := host.assets.remove handle
    (found, { host with assets })

/-- Saves the handle that a name stands for, or none. -/
def save (host : Host) (name? : Option String) : Host :=
  { host with saved? := name?.bind host.named? }

/-- Writes a file of the storage. Nothing reads it by itself. -/
def write (host : Host) (path : String) (file : StoredFile) : Host :=
  { host with files := host.files.insert path file }

/-- Reads the file at a path again, as long as this is the place of the saved asset. A file
that cannot be opened changes nothing. -/
def reload (host : Host) (path : String) : List Notice × Host :=
  let location := Location.ofString path
  let isSaved := host.saved? = some .file ∧
    host.path?.any fun saved => (Location.ofString saved).meets location
  match if isSaved then host.seek location else .refused with
  | .opened file => host.readFile location file
  | .refused | .unanswered => ([], host)

end Host

end Parley
