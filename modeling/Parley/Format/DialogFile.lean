/-
# Dialog files

A dialog file lists the dialogs of a story flat and names the roots. Options name the
dialog they lead to by id, so the nesting of a file does not grow with its story. A file
is only as good as the graph in it: reading one ends with a graph, or with the reason
why there is none.
-/

import Parley.Format.Value
import Parley.Graph.Basic
import Parley.Ron.Document

namespace Parley

open Ron (Codec Field Layout Reader Variant)

/-- Where an option of a file leads, unless it ends the conversation. -/
inductive Link where
  | dialog (id : DialogId)
  | redirect (id : DialogId)
deriving DecidableEq, Repr

instance : Codec Link where
  read := Reader.enumeration "RonNext"
    [.carrying "Dialog" .dialog, .carrying "Redirect" .redirect]
  write
    | .dialog id => Ron.writeCarried "Dialog" id
    | .redirect id => Ron.writeCarried "Redirect" id

namespace Destination

/-- The destination that a link leads to. Without a link the conversation ends. -/
def ofLink : Option Link → Destination
  | none => ending
  | some (.dialog id) => dialog id
  | some (.redirect id) => redirect id

def link? : Destination → Option Link
  | ending => none
  | dialog id => some (.dialog id)
  | redirect id => some (.redirect id)

end Destination

namespace DialogOption

def layout : Layout DialogOption where
  name := "RonOption"
  blank := default
  fields :=
    [.optional "text" (·.text) (fun text option => { option with text }),
      .optional "tag" (·.tag) (fun tag option => { option with tag }),
      .optional "notifications" (·.notifications) (fun notifications option =>
        { option with notifications }),
      .optional "next" (·.destination.link?) (fun link option =>
        { option with destination := .ofLink link })]

instance : Codec DialogOption := ⟨layout.read, layout.write⟩

end DialogOption

namespace Dialog

def layout : Layout Dialog where
  name := "RonDialog"
  blank := default
  fields :=
    [.required "id" (·.id) (fun id d => { d with id }),
      .optional "title" (·.title) (fun title d => { d with title }),
      .optional "text" (·.text) (fun text d => { d with text }),
      .optional "tag" (·.tag) (fun tag d => { d with tag }),
      .optional "requirement_mode" (·.mode) (fun mode d => { d with mode }),
      .optional "requirements" (·.requirements) (fun requirements d => { d with requirements }),
      .optional "options" (·.options) (fun options d => { d with options })]

instance : Codec Dialog := ⟨layout.read, layout.write⟩

end Dialog

/-- The content of a dialog file. -/
structure DialogFile where
  /-- The dialogs with which a conversation can begin. -/
  roots : List DialogId
  dialogs : List Dialog
deriving DecidableEq

/-- Why a dialog file holds no story. -/
inductive LoadError where
  /-- The file could not be read, for a reason of the storage. -/
  | unreadable (reason : String)
  /-- The file is no document of the right form. -/
  | malformed (error : Ron.Error)
  | invalid (error : GraphError)
deriving DecidableEq, Repr

def LoadError.message : LoadError → String
  | .unreadable reason => "Could not read the file: " ++ reason
  | .malformed error => "Could not parse RON: " ++ error.message
  | .invalid error => "Invalid dialog graph: " ++ error.message

namespace DialogFile

/-- The fields of a dialog file. -/
def layout : Layout DialogFile where
  name := "RonDialogCollection"
  blank := ⟨[], []⟩
  fields :=
    [.optional "roots" (·.roots) (fun roots file => { file with roots }),
      .optional "dialogs" (·.dialogs) (fun dialogs file => { file with dialogs })]

instance : Codec DialogFile := ⟨layout.read, layout.write⟩

/-- The content of the file that tells a story. -/
def ofGraph (g : Graph) : DialogFile := ⟨g.roots, g.toList⟩

/-- The bytes of a dialog file that holds a story. -/
def encode (g : Graph) : List UInt8 := Text.Utf8.encode (Ron.encode (ofGraph g))

/-- Reads the story in the bytes of a dialog file. -/
def decode (bytes : List UInt8) : Except LoadError Graph := do
  let read : Except Ron.Error DialogFile := Ron.decode bytes
  let file ← read.mapError .malformed
  (Graph.ofDialogs file.dialogs file.roots).mapError .invalid

end DialogFile

end Parley
