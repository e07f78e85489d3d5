import Shorthand.Text.Ranges

/-!
# White space

The characters with the property `White_Space` of Unicode.  They separate tokens, and they
are what trimming a line or a comment removes from its ends.
-/

namespace Shorthand.Text

/-- The white space of Unicode. -/
def spaceRanges : Ranges :=
  [(0x9, 0xD), (0x20, 0x20), (0x85, 0x85), (0xA0, 0xA0), (0x1680, 0x1680), (0x2000, 0x200A),
   (0x2028, 0x2029), (0x202F, 0x202F), (0x205F, 0x205F), (0x3000, 0x3000)]

/-- Whether the character is white space. -/
def isSpace (c : Char) : Bool := spaceRanges.holds c.toNat

/-- Characters without the white space at either end. -/
def trimChars (chars : List Char) : List Char :=
  ((chars.dropWhile isSpace).reverse.dropWhile isSpace).reverse

/-- The text without the white space at either end. -/
def trim (text : String) : String := String.ofList (trimChars text.toList)

end Shorthand.Text
