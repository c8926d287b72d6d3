/-
# The merchant's story

A short story about a merchant, told in English and in part in German. It has two
topics. The wares lead to a sword that costs ten gold, and the rumors tell of a mill.
-/

import Parley.Graph.Basic

namespace Parley.Merchant

/-- A text that is written in English and, where a second string is given, in German. -/
def text (description english : String) (german? : Option String) : LocalizedText :=
  let written := (LocalizedText.ofDescription description).set .english english
  german?.elim written (written.set .german)

/-- A condition that a flag is set. -/
def flag (name : String) : Condition := ⟨"flag", some name, .none⟩

/-- The merchant asks what the traveller wants. -/
def greeting : Dialog :=
  { (default : Dialog) with
    id := 0
    title := text "greeting title" "Greetings" (some "Begrüßung")
    text := text "greeting" "Welcome, traveller. What brings you here?"
      (some "Willkommen, Reisender. Was führt dich her?")
    tag := "portrait:merchant"
    requirements := [⟨.npc, flag "shop_open"⟩]
    options :=
      [{ text := text "ask wares" "Show me your wares." (some "Zeig mir deine Waren.")
         tag := ""
         notifications := []
         destination := .dialog 1 },
        { text := text "leave" "Farewell." (some "Lebewohl.")
          tag := ""
          notifications := []
          destination := .ending }] }

/-- The merchant offers a sword. -/
def wares : Dialog :=
  { (default : Dialog) with
    id := 1
    text := text "wares" "A fine sword, ten gold." (some "Ein feines Schwert, zehn Gold.")
    options :=
      [{ text := text "buy" "I'll take it." (some "Ich nehme es.")
         tag := "buy"
         notifications :=
           [⟨.player, ⟨"add", some "gold", .int (-10)⟩⟩,
             ⟨.player, ⟨"give", some "sword", .none⟩⟩,
             ⟨.npc, ⟨"set", some "sold_sword", .none⟩⟩]
         destination := .dialog 2 },
        { text := text "back" "Let me think." (some "Ich überlege noch.")
          tag := ""
          notifications := []
          destination := .redirect 0 }] }

/-- The merchant thanks a buyer. -/
def thanks : Dialog :=
  { (default : Dialog) with
    id := 2
    text := text "thanks" "Pleasure doing business." none
    requirements := [⟨.npc, flag "sold_sword"⟩]
    options :=
      [{ text := text "more" "Something else..." none
         tag := ""
         notifications := []
         destination := .redirect 0 }] }

/-- The merchant tells of the mill, to the curious or at night. -/
def rumors : Dialog :=
  { (default : Dialog) with
    id := 3
    title := text "rumors title" "Rumors" none
    text := text "rumors" "They say the old mill is haunted." none
    mode := .any
    requirements := [⟨.player, flag "curious"⟩, ⟨.world, flag "night"⟩]
    options :=
      [{ text := text "investigate" "I'll take a look." none
         tag := ""
         notifications := [⟨.object "mill", ⟨"set", some "investigated", .none⟩⟩]
         destination := .ending }] }

/-- The story, which begins with the greeting or the rumors. -/
def story : Except GraphError Graph := Graph.ofDialogs [greeting, wares, thanks, rumors] [0, 3]

end Parley.Merchant
