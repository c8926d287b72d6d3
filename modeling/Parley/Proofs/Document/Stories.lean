/-
# Stories that dialog files give back

Every story whose payloads are discrete has a dialog file, and reading the file ends with that
story: the same roots, and the same dialogs in the same order. A file nests no deeper for a story
of many dialogs than for a story of one, so the length of a story never makes its file unreadable.
-/

import Mathlib
import Parley.Format.DialogFile
import Parley.Proofs.Document.Values
import Parley.Proofs.Validation

namespace Parley

open Ron

variable {levels : Nat}

/-! ## Options -/

theorem Link.readsBack (link : Link) : ReadsBack (levels + 2) link := by
  cases link with
  | dialog id => exact Reader.reads_carried (by decide : IsName "Dialog") rfl (readsBack_int32 id)
  | redirect id =>
      exact Reader.reads_carried (by decide : IsName "Redirect") rfl (readsBack_int32 id)

theorem Destination.ofLink_link? (destination : Destination) :
    ofLink destination.link? = destination := by
  cases destination <;> rfl

namespace DialogOption

/-- No effect of the option carries a floating point number. -/
def IsDiscrete (option : DialogOption) : Prop :=
  ∀ notification ∈ option.notifications, notification.effect.value.IsDiscrete

instance : DecidablePred IsDiscrete := fun option =>
  inferInstanceAs (Decidable (∀ notification ∈ option.notifications,
    notification.effect.value.IsDiscrete))

theorem layout_isSound : layout.IsSound := ⟨by decide, by decide⟩

theorem readsBack {option : DialogOption} (discrete : option.IsDiscrete) :
    ReadsBack (levels + 10) option := by
  have text : ReadsBack (levels + 8) option.text := LocalizedText.readsBack _
  have tag : ReadsBack (levels + 8) option.tag := readsBack_string _
  have notifications : ReadsBack (levels + 8) option.notifications :=
    readsBack_list fun notification listed => Notification.readsBack (discrete notification listed)
  have next : ReadsBack (levels + 8) option.destination.link? :=
    readsBack_option fun link _ => Link.readsBack link
  apply Layout.reads layout_isSound
  · exact .cons (Field.restores_optional text) (.cons (Field.restores_optional tag)
      (.cons (Field.restores_optional notifications) (.cons (Field.restores_optional next) .nil)))
  · show { option with destination := .ofLink option.destination.link? } = option
    rw [Destination.ofLink_link?]

end DialogOption

/-! ## Dialogs -/

namespace Dialog

/-- No requirement and no option of the dialog carries a floating point number. -/
structure IsDiscrete (d : Dialog) : Prop where
  requirements : ∀ requirement ∈ d.requirements, requirement.condition.value.IsDiscrete
  options : ∀ option ∈ d.options, option.IsDiscrete

instance : DecidablePred IsDiscrete := fun d =>
  decidable_of_iff
    ((∀ requirement ∈ d.requirements, requirement.condition.value.IsDiscrete) ∧
      ∀ option ∈ d.options, option.IsDiscrete)
    ⟨fun ⟨requirements, options⟩ => ⟨requirements, options⟩,
      fun ⟨requirements, options⟩ => ⟨requirements, options⟩⟩

theorem layout_isSound : layout.IsSound := ⟨by decide, by decide⟩

theorem readsBack {d : Dialog} (discrete : d.IsDiscrete) : ReadsBack (levels + 14) d := by
  have id : ReadsBack (levels + 12) d.id := readsBack_int32 _
  have title : ReadsBack (levels + 12) d.title := LocalizedText.readsBack _
  have text : ReadsBack (levels + 12) d.text := LocalizedText.readsBack _
  have tag : ReadsBack (levels + 12) d.tag := readsBack_string _
  have mode : ReadsBack (levels + 12) d.mode := Mode.readsBack _
  have requirements : ReadsBack (levels + 12) d.requirements :=
    readsBack_list fun requirement listed =>
      Requirement.readsBack (discrete.requirements requirement listed)
  have options : ReadsBack (levels + 12) d.options :=
    readsBack_list fun option listed => DialogOption.readsBack (discrete.options option listed)
  apply Layout.reads layout_isSound
  · exact .cons (Field.restores_required id) (.cons (Field.restores_optional title)
      (.cons (Field.restores_optional text) (.cons (Field.restores_optional tag)
        (.cons (Field.restores_optional mode) (.cons (Field.restores_optional requirements)
          (.cons (Field.restores_optional options) .nil))))))
  · rfl

end Dialog

/-! ## Dialog files -/

namespace DialogFile

theorem layout_isSound : layout.IsSound := ⟨by decide, by decide⟩

theorem readsBack {file : DialogFile} (discrete : ∀ d ∈ file.dialogs, d.IsDiscrete) :
    ReadsBack (levels + 18) file := by
  have roots : ReadsBack (levels + 16) file.roots := readsBack_list fun _ _ => readsBack_int32 _
  have dialogs : ReadsBack (levels + 16) file.dialogs :=
    readsBack_list fun d listed => Dialog.readsBack (discrete d listed)
  apply Layout.reads layout_isSound
  · exact .cons (Field.restores_optional roots) (.cons (Field.restores_optional dialogs) .nil)
  · rfl

/-- A story without floating point numbers has a dialog file that is read as exactly that story. -/
theorem decode_encode_of_isDiscrete {dialogs : List Dialog} {roots : List DialogId} {g : Graph}
    (made : Graph.ofDialogs dialogs roots = .ok g) (discrete : ∀ d ∈ dialogs, d.IsDiscrete) :
    decode (encode g) = .ok g := by
  obtain ⟨lists, rfl, -⟩ := Graph.ofDialogs_eq_ok_iff.mp made
  have same : ofGraph g = ⟨g.roots, dialogs⟩ := by rw [ofGraph, Graph.toList, lists.values_eq]
  have read : Ron.decode (Text.Utf8.encode (Ron.encode (ofGraph g))) = .ok (ofGraph g) := by
    rw [same]
    exact Ron.decode_encode (readsBack discrete)
  rw [decode, encode, read, same]
  show (Graph.ofDialogs dialogs g.roots).mapError _ = _
  rw [made]
  rfl

/-- A story with texts that need escapes, the least of the integers, and destinations of each
kind. -/
def rumors : List Dialog :=
  [{ (default : Dialog) with
      id := 3
      title :=
        ⟨"a \"title\"", ⟨[(.polish, "Dzień\ndobry"), (.english, "back\\slash\t")], by decide⟩⟩
      mode := .any
      requirements :=
        [⟨.npc, "has", some "klucz", .int Int64.minValue⟩, ⟨.world, "night", none, .none⟩]
      options :=
        [{ (default : DialogOption) with
            tag := "it's"
            notifications := [⟨.object "", "open", some "\x00", .text "日本 🗝"⟩]
            destination := .dialog 0 },
          default] },
    { (default : Dialog) with
      options := [{ (default : DialogOption) with destination := .redirect 3 }] }]

theorem decode_encode_rumors :
    (∀ d ∈ rumors, d.IsDiscrete) ∧ ∃ g, Graph.ofDialogs rumors [3, 0] = .ok g ∧
      g.toList = rumors ∧ decode (encode g) = .ok g := by
  have discrete : ∀ d ∈ rumors, d.IsDiscrete := by decide
  have accepted : (Graph.ofDialogs rumors [3, 0]).isOk = true := by cbv
  refine ⟨discrete, ?_⟩
  cases made : Graph.ofDialogs rumors [3, 0] with
  | error flaw =>
      rw [made] at accepted
      cases accepted
  | ok g =>
      obtain ⟨lists, -, -⟩ := Graph.ofDialogs_eq_ok_iff.mp made
      exact ⟨g, rfl, lists.values_eq, decode_encode_of_isDiscrete made discrete⟩

end DialogFile

end Parley
