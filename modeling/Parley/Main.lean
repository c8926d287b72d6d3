/-
# The merchant on a terminal

Plays the merchant's story, in German if the first argument asks for it. The rules of the
game are those of `Parley.Merchant`; here lines are read and written.
-/

import Parley.Merchant.Play

namespace Parley.Merchant

/-- Plays a game to its end. -/
partial def converse (game : Game) (input output : IO.FS.Stream) : IO Unit := do
  match game.prompt with
  | .ends lines => output.putStr lines
  | .asks lines =>
    output.putStr lines
    output.flush
    let line ← input.getLine
    if line.isEmpty then output.putStr farewell
    else
      let (told, next) := game.answer line
      output.putStr told
      converse next input output

end Parley.Merchant

def main (arguments : List String) : IO Unit := do
  let game := Parley.Merchant.opening (Parley.Merchant.language arguments)
  Parley.Merchant.converse game (← IO.getStdin) (← IO.getStdout)
