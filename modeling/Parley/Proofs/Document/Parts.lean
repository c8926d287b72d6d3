/-
# Parts that documents give back

Not only whole stories are written down. The settings of a game, a text, and every part that a
requirement or a notification is made of can fill a document of its own. They are read back from
it as they were written, the languages of a text in the same order. As in a story, nothing is said
here of floating point numbers.
-/

import Parley.Proofs.Document.Values

namespace Parley

open Ron

variable {levels : Nat}

/-! ## Settings -/

theorem Fallback.readsBack (fallback : Fallback) : ReadsBack (levels + 2) fallback := by
  cases fallback <;> exact Reader.reads_unit (by decide) rfl

namespace Settings

theorem layout_isSound : layout.IsSound := ⟨by decide, by decide⟩

theorem readsBack (settings : Settings) : ReadsBack (levels + 8) settings := by
  have fallback : ReadsBack (levels + 6) settings.fallback := Fallback.readsBack _
  have language : ReadsBack (levels + 6) settings.fallbackLanguage := Language.readsBack _
  have closing : ReadsBack (levels + 6) settings.offersClosing := readsBack_bool _
  have text : ReadsBack (levels + 6) settings.closingText := LocalizedText.readsBack _
  apply Layout.reads layout_isSound
  · exact .cons (Field.restores_optional fallback) (.cons (Field.restores_optional language)
      (.cons (Field.restores_optional closing) (.cons (Field.restores_optional text) .nil)))
  · rfl

end Settings

/-! ## Documents of one part -/

namespace Ron

/-- A document in which a value is written down is read as that value. -/
def IsKept {α : Type} [Codec α] (value : α) : Prop :=
  decode (Text.Utf8.encode (encode value)) = .ok value

/-- Settings and texts are kept by documents, and so are the parts of requirements and
notifications in which no payload is a floating point number. -/
theorem isKept_parts :
    (∀ settings : Settings, IsKept settings) ∧
      (∀ text : LocalizedText, IsKept text) ∧
      (∀ payload : Payload, payload.IsDiscrete → IsKept payload) ∧
      (∀ condition : Condition, condition.value.IsDiscrete → IsKept condition) ∧
      (∀ requirement : Requirement, requirement.condition.value.IsDiscrete → IsKept requirement) ∧
      (∀ effect : Effect, effect.value.IsDiscrete → IsKept effect) ∧
      (∀ recipient : Recipient, IsKept recipient) ∧
      ∀ notification : Notification, notification.effect.value.IsDiscrete →
        IsKept notification := by
  refine ⟨fun settings => ?_, fun text => ?_, fun payload discrete => ?_,
    fun condition discrete => ?_, fun requirement discrete => ?_, fun effect discrete => ?_,
    fun recipient => ?_, fun notification discrete => ?_⟩
  · exact decode_encode settings.readsBack
  · exact decode_encode text.readsBack
  · exact decode_encode (Payload.readsBack discrete)
  · exact decode_encode (Condition.readsBack discrete)
  · exact decode_encode (Requirement.readsBack discrete)
  · exact decode_encode (Effect.readsBack discrete)
  · exact decode_encode recipient.readsBack
  · exact decode_encode (Notification.readsBack discrete)

/-- A payload that is written as a missing key is, a key that is written like it, the least of the
integers, and languages that stand in no order of theirs. -/
theorem isKept_farewell :
    let farewell : LocalizedText :=
      ⟨"\"", ⟨[(.chinese, "再见\\"), (.english, "Bye\r\n"), (.polish, "\x00'pa'")], by decide⟩⟩
    let settings : Settings := ⟨.blank, .polish, true, farewell⟩
    let keyless : Condition := ⟨"None", none, .none⟩
    let keyed : Condition := ⟨"", some "None", .int Int64.minValue⟩
    let opened : Effect := ⟨"open", some "Some(\"\")", .text "\x7f🗝"⟩
    encode keyless = "(kind:\"None\",key:None,value:None)" ∧
      encode keyed = "(kind:\"\",key:Some(\"None\"),value:Int(-9223372036854775808))" ∧
      IsKept settings ∧ IsKept farewell ∧ IsKept Payload.none ∧ IsKept keyless ∧
      IsKept (⟨.npc, keyed⟩ : Requirement) ∧ IsKept opened ∧ IsKept (Recipient.object "Npc") ∧
      IsKept (⟨.object "", opened⟩ : Notification) := by
  intro farewell settings keyless keyed opened
  obtain ⟨ofSettings, ofText, ofPayload, ofCondition, ofRequirement, ofEffect, ofRecipient,
    ofNotification⟩ := isKept_parts
  refine ⟨by decide +kernel, by decide +kernel, ofSettings settings, ofText farewell, ?_, ?_, ?_,
    ?_, ofRecipient _, ?_⟩
  · exact ofPayload _ (by decide)
  · exact ofCondition keyless (by decide)
  · exact ofRequirement _ (by decide)
  · exact ofEffect opened (by decide)
  · exact ofNotification _ (by decide)

end Ron

end Parley
