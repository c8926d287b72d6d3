/-
# Blank characters

The characters with the white space property of Unicode. The set has been the same
since version 6.3.
-/

namespace Parley.Text

/-- Closed ranges of the blank code points, ascending and apart. -/
def blankRanges : List (Nat × Nat) :=
  [(0x09, 0x0D), (0x20, 0x20), (0x85, 0x85), (0xA0, 0xA0), (0x1680, 0x1680), (0x2000, 0x200A),
    (0x2028, 0x2029), (0x202F, 0x202F), (0x205F, 0x205F), (0x3000, 0x3000)]

def isBlank (c : Char) : Bool :=
  blankRanges.any fun range => range.1 ≤ c.toNat && c.toNat ≤ range.2

/-- The text without the blank characters at its two ends. -/
def trim (text : String) : String :=
  let trimStart (chars : List Char) := chars.dropWhile isBlank
  String.ofList (trimStart (trimStart text.toList).reverse).reverse

end Parley.Text
