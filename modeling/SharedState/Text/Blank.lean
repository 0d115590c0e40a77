/-!
# White space

The characters with the Unicode property `White_Space`, and trimming by it.
-/

namespace SharedState.Text.Blank

/-- Ranges of the property `White_Space`, ends included. -/
def ranges : List (Nat × Nat) :=
  [(0x09, 0x0D), (0x20, 0x20), (0x85, 0x85), (0xA0, 0xA0), (0x1680, 0x1680), (0x2000, 0x200A),
    (0x2028, 0x2029), (0x202F, 0x202F), (0x205F, 0x205F), (0x3000, 0x3000)]

/-- Whether a character is white space. -/
def isBlank (letter : Char) : Bool :=
  ranges.any fun range => range.1 ≤ letter.toNat && letter.toNat ≤ range.2

/-- Drops the letters at both ends that pass a test. -/
def strip (drop : Char → Bool) (letters : List Char) : List Char :=
  ((letters.dropWhile drop).reverse.dropWhile drop).reverse

/-- Drops the white space at both ends of a text. -/
def trim (text : String) : String :=
  String.ofList (strip isBlank text.toList)

end SharedState.Text.Blank
