import Shorthand.Expression.Value

/-!
# Searching texts

Where a part occurs in a text, how often, and what the text becomes when something else is put
in its place.  Texts are their bytes; only the empty part is found around characters.
-/

namespace Shorthand.Expression

/-- The place of the first occurrence of a part, counted from `position`. -/
def firstAt? (part : List UInt8) (position : Nat) : List UInt8 → Option Nat
  | [] => if part.isEmpty then some position else none
  | b :: rest =>
      if part.isPrefixOf (b :: rest) then some position else firstAt? part (position + 1) rest

/-- The place of the last occurrence of a part. -/
def lastAt? (part text : List UInt8) : Option Nat :=
  (firstAt? part.reverse 0 text.reverse).map fun k => text.length - k - part.length

/-- How often a part occurs, without overlap; `skip` bytes belong to the occurrence before. -/
def countAt (part : List UInt8) : Nat → List UInt8 → Nat
  | _, [] => 0
  | skip + 1, _ :: rest => countAt part skip rest
  | 0, b :: rest =>
      if part.isPrefixOf (b :: rest) then countAt part (part.length - 1) rest + 1
      else countAt part 0 rest

/-- How often a part occurs; the empty one occurs around every character. -/
def occurrences (part text : List UInt8) : Nat :=
  if part.isEmpty then (characters text).length + 1 else countAt part 0 text

/-- A text before and after an occurrence of a part. -/
def around (part text : List UInt8) (place : Nat) : List UInt8 × List UInt8 :=
  (text.take place, text.drop (place + part.length))

/-! ## Replacing -/

/-- A text with the first `count` occurrences of a part replaced; `skip` bytes belong to the
occurrence before. -/
def replaceAt (part new : List UInt8) : Nat → Nat → List UInt8 → List UInt8
  | _, _, [] => []
  | count, skip + 1, _ :: rest => replaceAt part new count skip rest
  | 0, 0, bytes => bytes
  | count + 1, 0, b :: rest =>
      if part.isPrefixOf (b :: rest) then
        new ++ replaceAt part new count (part.length - 1) rest
      else b :: replaceAt part new (count + 1) 0 rest

/-- A text with something put before its first `count` characters, and then after the last. -/
def insertAround (new : List UInt8) : Nat → List Char → List UInt8
  | 0, chars => chars.flatMap String.utf8EncodeChar
  | _ + 1, [] => new
  | count + 1, c :: rest => new ++ String.utf8EncodeChar c ++ insertAround new count rest

/-- A text with a part replaced everywhere, or as often as a count says. -/
def replaced (text part new : List UInt8) (count : Int) : List UInt8 :=
  let most := if count < 0 then text.length + 1 else count.toNat
  if part.isEmpty then insertAround new most (characters text)
  else replaceAt part new most 0 text

end Shorthand.Expression
