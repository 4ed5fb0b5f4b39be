import PromptLibrary.Text.Ranges
/-!
# Blank characters

Two classes of blank characters. Unicode's white space also counts the separators U+001C to
U+001F; the class used for trimming options leaves those and U+0085 out and adds U+FEFF.
-/

namespace PromptLibrary.Text

def whiteSpaceRanges : Ranges :=
  [(0x9, 0xD), (0x1C, 0x20), (0x85, 0x85), (0xA0, 0xA0), (0x1680, 0x1680), (0x2000, 0x200A),
    (0x2028, 0x2029), (0x202F, 0x202F), (0x205F, 0x205F), (0x3000, 0x3000)]

/-- Whether a character is white space. -/
def isWhiteSpace (c : Char) : Bool :=
  whiteSpaceRanges.contains c.toNat

/-- Whether a character is a separator of ASCII text: space, tab, line feed and the like. -/
def isAsciiSpace (c : Char) : Bool :=
  c = ' ' || (decide (9 ≤ c.toNat) && decide (c.toNat ≤ 13))

def trimmedRanges : Ranges :=
  [(0x9, 0xD), (0x20, 0x20), (0xA0, 0xA0), (0x1680, 0x1680), (0x2000, 0x200A),
    (0x2028, 0x2029), (0x202F, 0x202F), (0x205F, 0x205F), (0x3000, 0x3000), (0xFEFF, 0xFEFF)]

/-- Whether a code point is dropped from the ends of an option. -/
def isTrimmed (n : Nat) : Bool :=
  trimmedRanges.contains n

end PromptLibrary.Text
