import Shorthand.Expression.Value
import Shorthand.Text.Case
import Shorthand.Text.Digit
import Shorthand.Text.Letter
import Shorthand.Text.Space

/-!
# Letters of texts

Texts in another case, and what kinds of characters a text has.  Bytes that are part of no
character count as the replacement character.
-/

namespace Shorthand.Expression

open Text

/-- Characters as a text. -/
def encoded (chars : List Char) : List UInt8 := chars.flatMap String.utf8EncodeChar

/-! ## Case -/

/-- A text in upper case. -/
def upperCase (text : List UInt8) : List UInt8 := encoded ((characters text).map Case.toUpper)

/-- A text in lower case. -/
def lowerCase (text : List UInt8) : List UInt8 := encoded ((characters text).map Case.toLower)

/-- A text with only its first character in title case. -/
def capitalized (text : List UInt8) : List UInt8 :=
  match characters text with
  | [] => []
  | c :: rest => encoded (Case.toTitle c :: rest.map Case.toLower)

/-- Characters with every word in title case: in a word all letters but the first are in lower
case.  `inside` says whether the characters go on with a word. -/
def titleChars (inside : Bool) : List Char → List Char
  | [] => []
  | c :: rest =>
      let c := if inside then Case.toLower c else Case.toTitle c
      c :: titleChars (Case.isCased c) rest

/-- A text with every word in title case. -/
def titleCase (text : List UInt8) : List UInt8 := encoded (titleChars false (characters text))

/-! ## Kinds of characters -/

/-- Whether the text is not empty and all its characters are of a kind. -/
def isAll (isKind : Char → Bool) (text : List UInt8) : Bool :=
  !text.isEmpty && (characters text).all isKind

/-- Whether the character is a letter or a digit. -/
def isLetterOrDigit (c : Char) : Bool := isLetter c || isDigit c

/-- Whether some character of the text has a case. -/
def hasCase (text : List UInt8) : Bool := (characters text).any Case.isCased

/-- Whether the text has letters, and all of them are in lower case. -/
def isLowerCase (text : List UInt8) : Bool := hasCase text && lowerCase text == text

/-- Whether the text has letters, and all of them are in upper case. -/
def isUpperCase (text : List UInt8) : Bool := hasCase text && upperCase text == text

/-- Whether every word of the characters is in title case.  Of the capitals outside ASCII only
those that are two letters in one may start a word.  `inside` says whether the characters go on
with a word, and `found` whether there was a letter. -/
def isTitleFrom (inside found : Bool) : List Char → Bool
  | [] => found
  | c :: rest =>
      if ('A' ≤ c && c ≤ 'Z') || Case.isTitle c then !inside && isTitleFrom true true rest
      else if Case.isLower c then inside && isTitleFrom true true rest
      else !Case.isUpper c && isTitleFrom false found rest

/-- Whether the text has words, and all of them are in title case. -/
def isTitleCase (text : List UInt8) : Bool := isTitleFrom false false (characters text)

end Shorthand.Expression
