/-
# Blanks

Two classes of white space are in use.  A *space* is a character with the Unicode property
White_Space.  A *blank* is a space or one of the four information separators U+001C to U+001F;
script texts and settings are read with blanks, numbers in documents with spaces.
-/
import ScriptTemplate.Text.Basic

namespace ScriptTemplate.Text

/-- The ranges of the property White_Space. -/
def spaceRanges : List (Nat × Nat) := [
  (0x0009, 0x000d), (0x0020, 0x0020), (0x0085, 0x0085), (0x00a0, 0x00a0), (0x1680, 0x1680),
  (0x2000, 0x200a), (0x2028, 0x2029), (0x202f, 0x202f), (0x205f, 0x205f), (0x3000, 0x3000)]

/-- Whether a code point lies in one of the given closed ranges. -/
def inRanges (ranges : List (Nat × Nat)) (n : Nat) : Bool :=
  ranges.any fun (low, high) => low ≤ n && n ≤ high

/-- Whether a character has the property White_Space. -/
def isSpace (c : CodePoint) : Bool := inRanges spaceRanges c.toNat

/-- Whether a character is a space or an information separator. -/
def isBlank (c : CodePoint) : Bool := isSpace c || (0x1c ≤ c.toNat && c.toNat ≤ 0x1f)

/-- The ASCII blanks, which may stand between the bytes of a hexadecimal text. -/
def isAsciiBlank (c : CodePoint) : Bool := c.toNat == 0x20 || (0x09 ≤ c.toNat && c.toNat ≤ 0x0d)

/-- A text without the characters of a class at either end. -/
def trimmed (p : CodePoint → Bool) (text : Text) : Text :=
  ((text.dropWhile p).reverse.dropWhile p).reverse

end ScriptTemplate.Text
