import Shorthand.Text.Utf8
import Shorthand.Text.Visible

/-!
# Text between quotes

A text is shown between quotes, on one line and without characters that cannot be seen: those
are written as escapes.  A byte that is part of no character is written by its number.
-/

namespace Shorthand.Text.Escaped

/-- The lowest `count` digits of a number in base 16. -/
def hexDigits (count n : Nat) : String :=
  String.ofList ((List.range count).reverse.map fun k => Nat.digitChar (n / Nat.pow 16 k % 16))

/-- A byte by its number. -/
def byteEscape (n : Nat) : String := "\\x" ++ hexDigits 2 n

/-- The escape of a character that is not shown as itself. -/
def charEscape (c : Char) : String :=
  match c.toNat with
  | 7 => "\\a"
  | 8 => "\\b"
  | 9 => "\\t"
  | 10 => "\\n"
  | 11 => "\\v"
  | 12 => "\\f"
  | 13 => "\\r"
  | n =>
      if n < 32 || n == 127 then byteEscape n
      else if n < 0x10000 then "\\u" ++ hexDigits 4 n
      else "\\U" ++ hexDigits 8 n

/-- A character between quotes of a kind. -/
def inside (mark c : Char) : String :=
  if c == mark || c == '\\' then "\\" ++ String.singleton c
  else if isVisible c then String.singleton c
  else charEscape c

/-- A character between double quotes that was read from bytes.  A byte that is part of no
character is written by its number. -/
def pieceInside (c : Char) (own : List UInt8) : String :=
  if String.utf8EncodeChar c == own then inside '"' c
  else String.join (own.map fun byte => byteEscape byte.toNat)

/-- Bytes as a text between double quotes. -/
def bytes (bytes : List UInt8) : String :=
  "\"" ++ String.join ((Utf8.pieces bytes).map fun (c, own) => pieceInside c own) ++ "\""

/-- A text between double quotes. -/
def text (text : String) : String := "\"" ++ String.join (text.toList.map (inside '"')) ++ "\""

/-- A character between single quotes. -/
def character (c : Char) : String := "'" ++ inside '\'' c ++ "'"

end Shorthand.Text.Escaped
