/-
# Locations

A location says where a story is kept: in which storage, under which path, and in which
part of the file. As a text, a storage ends with a colon and two slashes, and a part
begins with a hash. Most locations are a path alone, which means the storage of the game
itself and the whole file.

Two paths lead to the same place when they take the same steps, however they are
written. A storage keeps a file under its path as it was written, so one place has room
for a file for every way of writing its path.
-/

import Parley.Text.SmallLetter
import Parley.Text.Utf8

namespace Parley

/-! ## Paths -/

/-- The steps that a path takes: through directories, and to the file at its end. Doubled
and closing slashes are no steps, and neither is a single dot, unless the path begins
with it. The first step of a path from the root is empty. -/
def pathSteps (path : String) : List (List Char) :=
  match path.toList.splitOn '/' with
  | [] | [[]] => []
  | first :: others =>
    first :: others.filter fun step => !step.isEmpty && step != ['.']

/-- The name at the end of a path. To stay in a directory or to leave it for the one above
is no name. -/
def fileName? (path : String) : Option (List Char) :=
  (pathSteps path).getLast?.filter fun step => step ∉ [[], ['.'], ['.', '.']]

/-- Seeks bytes as one of several ends of a text, each given by the index of its first
byte. The search breaks off without an answer where an end would begin inside a
character. -/
def seekEnd? (sought text : List UInt8) : List Nat → Option Bool
  | [] => some false
  | start :: others =>
    let found := text.drop start
    if found.head?.any Text.Utf8.isContinuation then none
    else if found = sought then some true
    else seekEnd? sought text others

/-- Whether a file name has an extension, given in small letters; the name may have it in
either. All that follows the first dot is an extension, and so is what follows a later
one. The place of a later dot is counted in characters, but what follows it is cut off by
bytes, so after a character of several bytes the cut comes too early: the extension is
not found, or there is no answer. -/
def hasExtension? (extension : String) (name : List Char) : Option Bool :=
  match name.dropWhile (· != '.') with
  | [] => some false
  | _ :: rest =>
    let small := rest.flatMap Text.smallForm
    let laterEnds := small.zipIdx.filterMap fun (c, i) => if c = '.' then some (i + 1) else none
    seekEnd? (Text.Utf8.encode extension) (Text.Utf8.encode (String.ofList small))
      (0 :: laterEnds)

/-! ## Locations -/

/-- Where a story is kept. -/
structure Location where
  /-- The storage, if it is another than the game's own. -/
  storage? : Option (List Char)
  /-- The path in the storage, as it was written. -/
  path : String
  /-- The part of the file, if it is not the whole. -/
  part? : Option (List Char)
deriving DecidableEq

namespace Location

/-- What stands before the last mark of a storage, and what stands after it. -/
def splitStorage? : List Char → Option (List Char × List Char)
  | [] => none
  | c :: rest =>
    match splitStorage? rest with
    | some (storage, path) => some (c :: storage, path)
    | none => if "://".toList.isPrefixOf (c :: rest) then some ([], rest.drop 2) else none

/-- The location that a text names. The first hash begins the part of the file. -/
def ofString (text : String) : Location :=
  let whole := text.toList.takeWhile (· != '#')
  let part? := (text.toList.dropWhile (· != '#')).tail?
  match splitStorage? whole with
  | some (storage, path) => ⟨some storage, String.ofList path, part?⟩
  | none => ⟨none, String.ofList whole, part?⟩

/-- Whether two locations are the same place. -/
def meets (location other : Location) : Bool :=
  location.storage? == other.storage? && pathSteps location.path == pathSteps other.path
    && location.part? == other.part?

/-- Whether the file at a location is a dialog file by its name, if the name gives an
answer. Other files hold no stories. -/
def isDialogFile? (location : Location) : Option Bool :=
  (fileName? location.path).elim (some false) (hasExtension? "dialog.ron")

end Location

end Parley
