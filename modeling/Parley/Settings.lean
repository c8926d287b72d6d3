/-
# Settings

How an engine shows texts that are missing in the player's language, and whether it
offers a way out of a dialog that has no answer left.
-/

import Parley.LocalizedText

namespace Parley

/-- What a game can choose about the telling of a story. -/
structure Settings where
  /-- What is shown in place of a missing string. -/
  fallback : Fallback
  /-- The language that the language fallback looks at. -/
  fallbackLanguage : Language
  /-- Whether a dialog without answers gets one that closes the conversation. -/
  offersClosing : Bool
  closingText : LocalizedText
deriving DecidableEq

namespace Settings

instance : Inhabited Settings where
  default :=
    { fallback := default
      fallbackLanguage := default
      offersClosing := false
      closingText :=
        (LocalizedText.ofDescription "End Conversation").set .english "End Conversation" }

/-- The string of a text in a language. -/
def localize (settings : Settings) (text : LocalizedText) (language : Language) : String :=
  text.resolve language settings.fallback settings.fallbackLanguage

/-- Whether two settings choose the same. -/
def isEqv (a b : Settings) : Bool :=
  a.fallback == b.fallback && a.fallbackLanguage == b.fallbackLanguage
    && a.offersClosing == b.offersClosing && a.closingText.isEqv b.closingText

end Settings

end Parley
