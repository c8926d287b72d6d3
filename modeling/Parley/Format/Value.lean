/-
# Values in documents

How texts, payloads, requirements, notifications and settings are written down. Every
field but the kind of a condition or an effect, and the effect of a notification, may be
left out.
-/

import Parley.Dialog
import Parley.Ron.Structure
import Parley.Settings

namespace Parley

open Ron (Codec Field Layout Reader Variant)

/-! ## Texts -/

namespace Language

/-- Every language, in the order in which messages list them. -/
def all : List Language :=
  [english, german, french, spanish, italian, portuguese, polish, russian, japanese, korean,
    chinese]

/-- The name of a language in documents. -/
def documentName : Language → String
  | english => "En"
  | german => "De"
  | french => "Fr"
  | spanish => "Es"
  | italian => "It"
  | portuguese => "Pt"
  | polish => "Pl"
  | russian => "Ru"
  | japanese => "Ja"
  | korean => "Ko"
  | chinese => "Zh"

instance : Codec Language where
  read := Reader.enumeration "Language" (all.map fun language =>
    .unit language.documentName language)
  write := documentName

end Language

namespace Fallback

/-- Every fallback, in the order in which messages list them. -/
def all : List Fallback := [placeholder, language, blank]

/-- The name of a fallback in documents. -/
def documentName : Fallback → String
  | placeholder => "DebugOutput"
  | language => "Language"
  | blank => "Empty"

instance : Codec Fallback where
  read := Reader.enumeration "LocalizationFallback" (all.map fun fallback =>
    .unit fallback.documentName fallback)
  write := documentName

end Fallback

namespace LocalizedText

def layout : Layout LocalizedText where
  name := "LocalizedText"
  blank := default
  fields :=
    [.optional "description" (·.description) (fun description text => { text with description }),
      .optional "strings" (·.strings) (fun strings text => { text with strings })]

instance : Codec LocalizedText := ⟨layout.read, layout.write⟩

end LocalizedText

/-! ## Conditions and effects -/

instance : Codec Payload where
  read := Reader.enumeration "Payload"
    [.unit "None" .none, .carrying "Bool" .bool, .carrying "Int" .int, .carrying "Float" .float,
      .carrying "Text" .text, .carrying "Seconds" .seconds]
  write
    | .none => "None"
    | .bool value => Ron.writeCarried "Bool" value
    | .int value => Ron.writeCarried "Int" value
    | .float value => Ron.writeCarried "Float" value
    | .text value => Ron.writeCarried "Text" value
    | .seconds value => Ron.writeCarried "Seconds" value

namespace Condition

def layout : Layout Condition where
  name := "Condition"
  blank := default
  fields :=
    [.required "kind" (·.kind) (fun kind condition => { condition with kind }),
      .optional "key" (·.key) (fun key condition => { condition with key }),
      .optional "value" (·.value) (fun value condition => { condition with value })]

instance : Codec Condition := ⟨layout.read, layout.write⟩

end Condition

instance : Codec Requirement where
  read := Reader.enumeration "Requirement"
    [.carrying "Player" (Requirement.mk .player), .carrying "Npc" (Requirement.mk .npc),
      .carrying "World" (Requirement.mk .world)]
  write requirement :=
    let side := match requirement.side with
      | .player => "Player"
      | .npc => "Npc"
      | .world => "World"
    Ron.writeCarried side requirement.condition

instance : Codec Mode where
  read := Reader.enumeration "RequirementMode" [.unit "All" .all, .unit "Any" .any]
  write
    | .all => "All"
    | .any => "Any"

namespace Effect

def layout : Layout Effect where
  name := "Effect"
  blank := default
  fields :=
    [.required "kind" (·.kind) (fun kind effect => { effect with kind }),
      .optional "key" (·.key) (fun key effect => { effect with key }),
      .optional "value" (·.value) (fun value effect => { effect with value })]

instance : Codec Effect := ⟨layout.read, layout.write⟩

end Effect

instance : Codec Recipient where
  read := Reader.enumeration "NotificationTarget"
    [.unit "Origin" .origin, .unit "Npc" .npc, .unit "Player" .player, .unit "World" .world,
      .carrying "Object" .object]
  write
    | .origin => "Origin"
    | .npc => "Npc"
    | .player => "Player"
    | .world => "World"
    | .object name => Ron.writeCarried "Object" name

namespace Notification

def layout : Layout Notification where
  name := "Notification"
  blank := default
  fields :=
    [.optional "target" (·.recipient) (fun recipient notification =>
        { notification with recipient }),
      .required "effect" (·.effect) (fun effect notification => { notification with effect })]

instance : Codec Notification := ⟨layout.read, layout.write⟩

end Notification

/-! ## Settings -/

namespace Settings

/-- The fields of settings. What is left out is as in the settings of a new engine. -/
def layout : Layout Settings where
  name := "EngineSettings"
  blank := default
  fields :=
    [.optional "fallback" (·.fallback) (fun fallback settings => { settings with fallback }),
      .optional "fallback_language" (·.fallbackLanguage) (fun fallbackLanguage settings =>
        { settings with fallbackLanguage }),
      .optional "use_end_conversation_fallback" (·.offersClosing)
        (fun offersClosing settings => { settings with offersClosing }),
      .optional "end_conversation_text" (·.closingText) (fun closingText settings =>
        { settings with closingText })]

instance : Codec Settings := ⟨layout.read, layout.write⟩

end Settings

end Parley
