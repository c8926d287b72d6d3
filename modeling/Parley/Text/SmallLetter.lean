/-
# Small letters

Capital letters have small forms. Most take as many bytes as the capital, so where only
ASCII letters are sought and bytes are counted, those may stay as they are. The others
are listed here. One of them, the capital I with a dot, is written small as two
characters: the letter and the dot. The data are those of Unicode 17.0.
-/

namespace Parley.Text

/-- The capital letters whose small form is one character and takes another number of
bytes, and that form. -/
def resizedCapitals : List (Nat × Nat) :=
  [
    (0x23A, 0x2C65), (0x23E, 0x2C66), (0x1E9E, 0xDF), (0x2126, 0x3C9), (0x212A, 0x6B),
    (0x212B, 0xE5), (0x2C62, 0x26B), (0x2C64, 0x27D), (0x2C6D, 0x251), (0x2C6E, 0x271),
    (0x2C6F, 0x250), (0x2C70, 0x252), (0x2C7E, 0x23F), (0x2C7F, 0x240), (0xA78D, 0x265),
    (0xA7AA, 0x266), (0xA7AB, 0x25C), (0xA7AC, 0x261), (0xA7AD, 0x26C), (0xA7AE, 0x26A),
    (0xA7B0, 0x29E), (0xA7B1, 0x287), (0xA7B2, 0x29D), (0xA7C5, 0x282), (0xA7CB, 0x264),
    (0xA7DC, 0x19B)
  ]

/-- The small form of an ASCII letter or of a letter whose small form takes other bytes to
count. Every other character stays as it is. -/
def smallForm (c : Char) : List Char :=
  if c = '\u0130' then ['i', '\u0307']
  else [(resizedCapitals.lookup c.toNat).elim c.toLower Char.ofNat]

end Parley.Text
