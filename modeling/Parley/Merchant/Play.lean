/-
# Playing the merchant's story

The story is played on a terminal: a screen is shown with its answers numbered from one,
and a line with a number picks an answer. Any other line shows the same screen again, and
so does a refused answer, after the reason. The conversation is over when there is no
screen, when there is nothing to answer, or when the input ends.

`prompt` and `answer` are the two halves of a round, and `play` is the whole of a game
whose input is known.
-/

import Parley.Merchant.Cast
import Parley.Merchant.Story
import Parley.Session
import Parley.Text.Blank

namespace Parley.Merchant

/-- A game in progress. -/
structure Game where
  session : Session Shopkeeper Traveller Village
  language : Language

/-- The engine that tells the story. What is not written in a language is told in English,
and nobody is left without an answer. -/
def engine : Engine where
  settings := { (default : Settings) with fallback := .language, offersClosing := true }
  graph? := story.toOption

/-- A game before its first answer. -/
def opening (language : Language) : Game :=
  let start : Session Shopkeeper Traveller Village := ⟨engine, company, none⟩
  ⟨(start.perform (.topics language)).value.2, language⟩

def separator : String := String.ofList (List.replicate 41 '-') ++ "\n"

/-- The last lines of a game. -/
def farewell : String := separator ++ "The conversation is over.\n"

/-- The lines of answers, numbered on from a position. -/
def answerLines : Nat → List Answer → String
  | _, [] => ""
  | position, answer :: rest =>
    "  " ++ toString (position + 1) ++ ". " ++ answer.text ++ "\n"
      ++ answerLines (position + 1) rest

/-- The lines of a screen. A list of topics has nothing but its answers. -/
def screenLines (screen : Screen) : String :=
  let said := if screen.isTopicList then "" else screen.text ++ "\n"
  separator ++ said ++ answerLines 0 screen.answers

/-- What stands on the terminal before the player's turn. -/
inductive Prompt where
  | asks (lines : String)
  | ends (lines : String)
deriving DecidableEq, Repr

/-- What is shown before the player's turn. -/
def Game.prompt (game : Game) : Prompt :=
  match game.session.screen? with
  | none => .ends farewell
  | some screen =>
    if screen.answers.isEmpty then .ends (screenLines screen ++ farewell)
    else .asks (screenLines screen ++ "> ")

/-- The position that a line picks: its number less one. The number may stand between
blanks and behind a plus sign, and must fit into 64 bits. -/
def position? (line : String) : Option Nat :=
  let digits := match (Text.trim line).toList with
    | '+' :: rest => rest
    | chars => chars
  let number := digits.foldl (fun n c => n * 10 + (c.toNat - '0'.toNat)) 0
  if digits.isEmpty || !digits.all Char.isDigit || UInt64.size ≤ number then none
  else if number = 0 then none
  else some (number - 1)

/-- What is told of the events of a turn, beginning with the company before it. -/
def narrate (company : Company) : List Event → String
  | [] => ""
  | .notified n origin refusal? :: rest =>
    let after := (company.notify n origin).after
    let told := if refusal?.isSome then none else tellOf after n origin
    told.elim "" (· ++ "\n") ++ narrate after rest
  | .asked _ _ _ :: rest => narrate company rest
  | .remarked _ :: rest => narrate company rest

/-- Takes a line of the player: what is told of its consequences, and the game after it. -/
def Game.answer (game : Game) (line : String) : String × Game :=
  match position? line with
  | none => ("", game)
  | some position =>
    let turn := game.session.perform (.pick position game.language)
    let refusal := match turn.value.1 with
      | .refused refusal => "--- " ++ refusal.message ++ "\n"
      | _ => ""
    (narrate game.session.cast turn.events ++ refusal, { game with session := turn.value.2 })

/-- All that stands on the terminal in a game with these input lines. -/
def Game.play (game : Game) (input : List String) : String :=
  match game.prompt, input with
  | .ends lines, _ => lines
  | .asks lines, [] => lines ++ farewell
  | .asks lines, line :: rest =>
    let (told, next) := game.answer line
    lines ++ told ++ next.play rest

/-- The lines of an input. The last one need not be ended. -/
def inputLines (input : String) : List String :=
  let parts := input.splitOn "\n"
  if parts.getLast? = some "" then parts.dropLast else parts

/-- The language that the arguments of a command ask for. -/
def language (arguments : List String) : Language :=
  if arguments.head? = some "de" then .german else .english

/-- All that stands on the terminal in a game with these arguments and this input. -/
def terminal (arguments : List String) (input : String) : String :=
  (opening (language arguments)).play (inputLines input)

end Parley.Merchant
