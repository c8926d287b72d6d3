/-
# Translations and what became of them

A text is written language by language, and a language may be written again. What the text shows
then depends on the description and on the last string of each language, and of those on two at
most: the string of the language that is asked for, and, where that is missing and the fallback
names another language, the string of that one. There is no second fallback.

The history shows in one other place. The languages stand in the order in which they were first
written, however often they were written since, so two histories with the same last strings may
list them differently. No screen tells such texts apart.
-/

import Mathlib
import Parley.LocalizedText

namespace Parley

namespace OrderedMap

variable {κ α : Type} [DecidableEq κ]

theorem ofList_concat (entries : List (κ × α)) (entry : κ × α) :
    ofList (entries ++ [entry]) = (ofList entries).insert entry.1 entry.2 := by
  rw [ofList, ofList, List.foldl_append, List.foldl_cons, List.foldl_nil]

/-- Under each key stands the value that was last written there. -/
theorem get?_ofList (entries : List (κ × α)) (k : κ) :
    (ofList entries).get? k = entries.reverse.lookup k := by
  induction entries using List.reverseRecOn with
  | nil => rfl
  | append_singleton entries entry ih =>
      rw [ofList_concat, get?_insert, ih, List.reverse_append, List.reverse_singleton,
        List.singleton_append, List.lookup_cons]
      by_cases same : k = entry.1
      · simp [same]
      · simp [same, beq_false_of_ne same]

/-- The keys stand in the order in which they were first written. -/
theorem keys_ofList (entries : List (κ × α)) :
    (ofList entries).keys = (entries.map Prod.fst).eraseDups := by
  induction entries using List.reverseRecOn with
  | nil => rfl
  | append_singleton entries entry ih =>
      rw [ofList_concat, List.map_append, List.map_singleton, List.eraseDups_append, ← ih]
      have known : entry.1 ∈ ofList entries ↔ entry.1 ∈ entries.map Prod.fst := by
        rw [mem_iff, ih, List.mem_eraseDups]
      by_cases present : entry.1 ∈ ofList entries
      · simp [keys_insert_of_mem present, List.removeAll, known.mp present]
      · simp [keys_insert_of_not_mem present, List.removeAll, mt known.mpr present,
          List.eraseDups_cons]

end OrderedMap

namespace LocalizedText

/-- The text that comes of writing strings in turn, from a description and no strings. -/
def written (description : String) (history : List (Language × String)) : LocalizedText :=
  history.foldl (fun text entry => text.set entry.1 entry.2) (ofDescription description)

/-- The string that a language was given last. -/
def lastString? (history : List (Language × String)) (language : Language) : Option String :=
  history.reverse.lookup language

theorem written_eq (description : String) (history : List (Language × String)) :
    written description history = ⟨description, .ofList history⟩ := by
  induction history using List.reverseRecOn with
  | nil => rfl
  | append_singleton history entry ih =>
      rw [OrderedMap.ofList_concat, written, List.foldl_append, List.foldl_cons, List.foldl_nil,
        ← written, ih]
      rfl

theorem get?_written (description : String) (history : List (Language × String))
    (language : Language) :
    (written description history).get? language = lastString? history language := by
  rw [written_eq]
  exact OrderedMap.get?_ofList history language

variable {text other : LocalizedText} {language fallbackLanguage : Language} {fallback : Fallback}

theorem resolve_of_get?_eq_some {string : String} (present : text.get? language = some string) :
    text.resolve language fallback fallbackLanguage = string := by
  unfold resolve
  rw [present]

/-- A missing string sends to the fallback language, and what is missing there shows itself. -/
theorem resolve_language_of_get?_eq_none (missing : text.get? language = none) :
    text.resolve language .language fallbackLanguage =
      text.resolve fallbackLanguage .placeholder fallbackLanguage := by
  unfold resolve
  rw [missing]
  cases text.get? fallbackLanguage <;> rfl

/-- Nothing but the description and two strings is looked at, and the string of the fallback
language only if the fallback asks for it. -/
theorem resolve_congr (description : text.description = other.description)
    (same : text.get? language = other.get? language)
    (sameFallback : fallback = .language → text.get? fallbackLanguage = other.get? fallbackLanguage) :
    text.resolve language fallback fallbackLanguage =
      other.resolve language fallback fallbackLanguage := by
  have placeholders : text.placeholder = other.placeholder := by
    funext missing
    rw [placeholder, placeholder, description]
  unfold resolve
  rw [same, placeholders]
  cases other.get? language with
  | some string => rfl
  | none =>
      cases fallback with
      | placeholder => rfl
      | language => rw [sameFallback rfl]
      | blank => rfl

/-- A text shows what it was told last. -/
structure ShowsLast (description : String) (history : List (Language × String)) : Prop where
  distinct : (written description history).strings.keys.Nodup
  /-- The languages stand in the order in which they were first written. -/
  order : (written description history).strings.keys = (history.map Prod.fst).eraseDups
  present : ∀ {language string}, lastString? history language = some string →
    ∀ fallback fallbackLanguage,
      (written description history).resolve language fallback fallbackLanguage = string
  /-- The fallback language is looked up once, as if there was no other. -/
  missing : ∀ {language}, lastString? history language = none → ∀ fallbackLanguage,
    (written description history).resolve language .language fallbackLanguage =
      (written description history).resolve fallbackLanguage .placeholder fallbackLanguage
  /-- No other strings are looked at. -/
  depends : ∀ {other language fallback fallbackLanguage},
    lastString? history language = lastString? other language →
      (fallback = .language →
        lastString? history fallbackLanguage = lastString? other fallbackLanguage) →
      (written description history).resolve language fallback fallbackLanguage =
        (written description other).resolve language fallback fallbackLanguage
  alike : ∀ {other}, (∀ language, lastString? history language = lastString? other language) →
    (written description history).resolve = (written description other).resolve

/-- Whatever a text was told, it shows what it was told last. -/
theorem showsLast_written (description : String) (history : List (Language × String)) :
    ShowsLast description history := by
  have depends {other : List (Language × String)} {language fallbackLanguage : Language}
      {fallback : Fallback}
      (same : lastString? history language = lastString? other language)
      (sameFallback : fallback = .language →
        lastString? history fallbackLanguage = lastString? other fallbackLanguage) :
      (written description history).resolve language fallback fallbackLanguage =
        (written description other).resolve language fallback fallbackLanguage := by
    apply resolve_congr
    · rw [written_eq, written_eq]
    · rw [get?_written, get?_written, same]
    · intro asked
      rw [get?_written, get?_written, sameFallback asked]
  refine ⟨(written description history).strings.nodup, ?_, ?_, ?_, depends, ?_⟩
  · rw [written_eq]
    exact OrderedMap.keys_ofList history
  · intro language string last fallback fallbackLanguage
    exact resolve_of_get?_eq_some ((get?_written _ _ _).trans last)
  · intro language never fallbackLanguage
    exact resolve_language_of_get?_eq_none ((get?_written _ _ _).trans never)
  · intro other same
    funext language fallback fallbackLanguage
    exact depends (same language) fun _ => same fallbackLanguage

/-- Two ways to write the same greeting. The languages come in a different order, and each text was
told something else before. -/
theorem showsLast_greeting :
    let history : List (Language × String) :=
      [(.english, "Hi"), (.german, "Hallo"), (.english, "Hello")]
    let other : List (Language × String) :=
      [(.german, "Servus"), (.english, "Hello"), (.german, "Hallo")]
    (written "greeting" history).strings.keys = [.english, .german] ∧
      (written "greeting" other).strings.keys = [.german, .english] ∧
      (written "greeting" history).resolve .english .blank .german = "Hello" ∧
      (written "greeting" history).resolve .french .language .german =
        (written "greeting" history).resolve .german .placeholder .german ∧
      (written "greeting" history).resolve = (written "greeting" other).resolve := by
  intro history other
  have shows := showsLast_written "greeting" history
  refine ⟨by decide, by decide, shows.present rfl .blank .german, shows.missing rfl .german, ?_⟩
  apply shows.alike
  intro language
  cases language <;> rfl

end LocalizedText

end Parley
