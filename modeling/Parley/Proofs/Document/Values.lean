/-
# Values that documents give back

Texts, payloads, requirements and notifications are read back as they were written. The one
exception is made for floating point numbers, which are written in decimal: a value is discrete
if no payload in it is one. How deep the text of a value nests depends on its type and not on how
long the value is.
-/

import Parley.Format.Value
import Parley.Proofs.Document.Structures
import Parley.Ron.Document

namespace Parley

open Ron

variable {levels : Nat}

/-! ## Whole documents -/

/-- A document that holds what is written for a value is read as that value. -/
theorem Ron.decode_encode {α : Type} [Codec α] {value : α} (back : ReadsBack depthLimit value) :
    decode (Text.Utf8.encode (encode value)) = .ok value := by
  have opens : Opens (Text.Utf8.encode (Codec.write value)) := back.opens
  have taken := back.takes (Nat.le_refl _) delimited_nil
  rw [List.append_nil] at taken
  have unmarked (fuel : Nat) : (Reader.preamble (fuel + 1)).Takes depthLimit
      (Text.Utf8.encode (Codec.write value)) [] (Text.Utf8.encode (Codec.write value)) := by
    obtain ⟨b, rest, same, -, -, -, other⟩ := opens
    refine Reader.takes_ahead.bind ?_
    rw [same, List.head?_cons, if_neg (by simpa using other)]
    exact Reader.takes_pure []
  have whole : (Reader.document Codec.read).Takes depthLimit
      (Text.Utf8.encode (Codec.write value)) value [] := by
    refine (Reader.takes_blanks opens.solid).bind ?_
    refine (unmarked _).repeating.bind ?_
    refine Reader.Takes.bind taken ?_
    refine (Reader.takes_blanks delimited_nil.solid).bind ?_
    exact Reader.takes_ahead.bind (Reader.takes_pure value)
  obtain ⟨place, done⟩ := whole ⟨1, 1⟩
  rw [decode, encode, Cursor.start, done]

/-! ## Texts -/

theorem Language.readsBack (language : Language) : ReadsBack (levels + 2) language := by
  cases language <;> exact Reader.reads_unit (by decide) rfl

namespace LocalizedText

theorem layout_isSound : layout.IsSound := ⟨by decide, by decide⟩

theorem readsBack (text : LocalizedText) : ReadsBack (levels + 6) text := by
  have description : ReadsBack (levels + 4) text.description := readsBack_string _
  have strings : ReadsBack (levels + 4) text.strings :=
    readsBack_orderedMap (fun _ _ => Language.readsBack _) fun _ _ => readsBack_string _
  apply Layout.reads layout_isSound
  · exact .cons (Field.restores_optional description)
      (.cons (Field.restores_optional strings) .nil)
  · rfl

end LocalizedText

/-! ## Payloads -/

namespace Payload

/-- The payload is no floating point number. -/
def IsDiscrete : Payload → Prop
  | float _ => False
  | seconds _ => False
  | _ => True

instance : DecidablePred IsDiscrete
  | none => isTrue trivial
  | bool _ => isTrue trivial
  | int _ => isTrue trivial
  | float _ => isFalse id
  | text _ => isTrue trivial
  | seconds _ => isFalse id

theorem readsBack {payload : Payload} (discrete : payload.IsDiscrete) :
    ReadsBack (levels + 2) payload := by
  cases payload with
  | none => exact Reader.reads_unit (by decide) rfl
  | bool value => exact Reader.reads_carried (by decide) rfl (readsBack_bool value)
  | int value => exact Reader.reads_carried (by decide) rfl (readsBack_int64 value)
  | float => exact discrete.elim
  | text value => exact Reader.reads_carried (by decide) rfl (readsBack_string value)
  | seconds => exact discrete.elim

end Payload

/-! ## Requirements -/

namespace Condition

theorem layout_isSound : layout.IsSound := ⟨by decide, by decide⟩

theorem readsBack {condition : Condition} (discrete : condition.value.IsDiscrete) :
    ReadsBack (levels + 4) condition := by
  have kind : ReadsBack (levels + 2) condition.kind := readsBack_string _
  have key : ReadsBack (levels + 2) condition.key := readsBack_option fun _ _ => readsBack_string _
  have value : ReadsBack (levels + 2) condition.value := Payload.readsBack discrete
  apply Layout.reads layout_isSound
  · exact .cons (Field.restores_required kind)
      (.cons (Field.restores_optional key) (.cons (Field.restores_optional value) .nil))
  · rfl

end Condition

theorem Requirement.readsBack {requirement : Requirement}
    (discrete : requirement.condition.value.IsDiscrete) : ReadsBack (levels + 6) requirement := by
  have inside : ReadsBack (levels + 4) requirement.condition := Condition.readsBack discrete
  obtain ⟨side, condition⟩ := requirement
  cases side with
  | npc => exact Reader.reads_carried (by decide : IsName "Npc") rfl inside
  | player => exact Reader.reads_carried (by decide : IsName "Player") rfl inside
  | world => exact Reader.reads_carried (by decide : IsName "World") rfl inside

theorem Mode.readsBack (mode : Mode) : ReadsBack (levels + 2) mode := by
  cases mode <;> exact Reader.reads_unit (by decide) rfl

/-! ## Notifications -/

namespace Effect

theorem layout_isSound : layout.IsSound := ⟨by decide, by decide⟩

theorem readsBack {effect : Effect} (discrete : effect.value.IsDiscrete) :
    ReadsBack (levels + 4) effect := by
  have kind : ReadsBack (levels + 2) effect.kind := readsBack_string _
  have key : ReadsBack (levels + 2) effect.key := readsBack_option fun _ _ => readsBack_string _
  have value : ReadsBack (levels + 2) effect.value := Payload.readsBack discrete
  apply Layout.reads layout_isSound
  · exact .cons (Field.restores_required kind)
      (.cons (Field.restores_optional key) (.cons (Field.restores_optional value) .nil))
  · rfl

end Effect

theorem Recipient.readsBack (recipient : Recipient) : ReadsBack (levels + 2) recipient := by
  cases recipient with
  | object name => exact Reader.reads_carried (by decide) rfl (readsBack_string name)
  | _ => exact Reader.reads_unit (by decide) rfl

namespace Notification

theorem layout_isSound : layout.IsSound := ⟨by decide, by decide⟩

theorem readsBack {notification : Notification} (discrete : notification.effect.value.IsDiscrete) :
    ReadsBack (levels + 6) notification := by
  have recipient : ReadsBack (levels + 4) notification.recipient := Recipient.readsBack _
  have effect : ReadsBack (levels + 4) notification.effect := Effect.readsBack discrete
  apply Layout.reads layout_isSound
  · exact .cons (Field.restores_optional recipient)
      (.cons (Field.restores_required effect) .nil)
  · rfl

end Notification

end Parley
