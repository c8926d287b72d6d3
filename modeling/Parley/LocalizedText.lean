/-
# Localized text

A text holds one string per language and a description for the authors. Showing it in
a language that has no string follows a `Fallback`. The language fallback looks at one
further language and never at a third: what is missing there too is shown as a
placeholder, so an untranslated text is visible on screen instead of silently empty.
-/

import Parley.Language
import Parley.OrderedMap

namespace Parley

/-- What is shown in place of a string that is missing. -/
inductive Fallback where
  /-- A placeholder that names the missing language and the description. -/
  | placeholder
  /-- The string of a fixed other language, or its placeholder. -/
  | language
  /-- Nothing. -/
  | blank
deriving DecidableEq, Repr

/-- Missing strings show themselves unless the game asks for something else. -/
instance : Inhabited Fallback := ⟨.placeholder⟩

/-- A text in several languages. -/
structure LocalizedText where
  /-- What the text is for, read by authors and in placeholders. -/
  description : String
  /-- The string of each language, in the order in which they were written. -/
  strings : OrderedMap Language String
deriving DecidableEq

namespace LocalizedText

instance : Inhabited LocalizedText := ⟨⟨"", ∅⟩⟩

/-- A text with a description and no strings. -/
def ofDescription (description : String) : LocalizedText := ⟨description, ∅⟩

/-- Writes the string of a language. A string already there is replaced in its place. -/
def set (text : LocalizedText) (language : Language) (string : String) : LocalizedText :=
  { text with strings := text.strings.insert language string }

/-- The string of a language, if one was written. -/
def get? (text : LocalizedText) (language : Language) : Option String :=
  text.strings.get? language

/-- The text shown for a language without a string. A text without a description is
called unnamed. -/
def placeholder (text : LocalizedText) (language : Language) : String :=
  let name := if text.description.isEmpty then "unnamed" else text.description
  "<missing " ++ language.code ++ " text: " ++ name ++ ">"

/-- The string shown in a language under a fallback policy. -/
def resolve (text : LocalizedText) (language : Language) (fallback : Fallback)
    (fallbackLanguage : Language) : String :=
  match text.get? language with
  | some string => string
  | none =>
    match fallback with
    | .placeholder => text.placeholder language
    | .language => (text.get? fallbackLanguage).getD (text.placeholder fallbackLanguage)
    | .blank => ""

/-- Whether two texts say the same: one description, and the same string in each
language. The order of the languages does not matter. -/
def isEqv (a b : LocalizedText) : Bool :=
  a.description == b.description && a.strings.isEqv (· == ·) b.strings

end LocalizedText

end Parley
