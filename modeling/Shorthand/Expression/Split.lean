import Shorthand.Expression.Value
import Shorthand.Text.Space

/-!
# Trimming and splitting texts

A text loses characters at its ends, or falls apart at white space or at a separator.  White
space divides words, however much of it there is; a separator divides parts, which may be
empty.  At most so many divisions are made if there is a limit, from the one end or the other.
-/

namespace Shorthand.Expression

/-- A character with the bytes it was read from. -/
abbrev Piece := Char × List UInt8

/-- The bytes of pieces. -/
def pieceBytes (pieces : List Piece) : List UInt8 := pieces.flatMap Prod.snd

/-! ## Trimming -/

/-- The ends of a text. -/
inductive Side where
  | both
  | left
  | right
deriving DecidableEq

/-- Pieces without those at the right end whose characters are in a class. -/
def trimRight (isIn : Char → Bool) (pieces : List Piece) : List Piece :=
  (pieces.reverse.dropWhile fun piece => isIn piece.1).reverse

/-- Pieces without those at the left end whose characters are in a class. -/
def trimLeft (isIn : Char → Bool) (pieces : List Piece) : List Piece :=
  pieces.dropWhile fun piece => isIn piece.1

/-- A text without the characters of a class at an end. -/
def trimmed (side : Side) (isIn : Char → Bool) (text : List UInt8) : List UInt8 :=
  let pieces := Text.Utf8.pieces text
  pieceBytes <|
    match side with
    | .both => trimRight isIn (trimLeft isIn pieces)
    | .left => trimLeft isIn pieces
    | .right => trimRight isIn pieces

/-- The class of the characters of a text; of an empty one it is white space. -/
def classOf (chars : List Char) (c : Char) : Bool :=
  if chars.isEmpty then Text.isSpace c else chars.contains c

/-! ## Words -/

/-- Goes on to divide words.  `done` are the words before and `word` the pieces of the one that
is being read, both with the last one first.  When the limit is reached, the word takes all that
is left. -/
def wordsOnto (limit? : Option Nat) (done : List (List Piece)) (word : List Piece) :
    List Piece → List (List Piece)
  | [] => (if word.isEmpty then done else word.reverse :: done).reverse
  | piece :: rest =>
      if !Text.isSpace piece.1 then wordsOnto limit? done (piece :: word) rest
      else if word.isEmpty then wordsOnto limit? done [] rest
      else if limit? == some done.length then
        ((word.reverse ++ piece :: rest) :: done).reverse
      else wordsOnto limit? (word.reverse :: done) [] rest

/-- The words of a text, divided from the left. -/
def wordsFromLeft (limit? : Option Nat) (text : List UInt8) : List (List UInt8) :=
  (wordsOnto limit? [] [] (Text.Utf8.pieces text)).map pieceBytes

/-- The words of a text, divided from the right. -/
def wordsFromRight (limit? : Option Nat) (text : List UInt8) : List (List UInt8) :=
  ((wordsOnto limit? [] [] (Text.Utf8.pieces text).reverse).map fun word =>
    pieceBytes word.reverse).reverse

/-! ## Parts -/

/-- Goes on to divide parts at a separator that is not empty.  `done` are the parts before and
`part` the bytes of the one that is being read, both with the last one first; `skip` bytes belong
to the separator before. -/
def partsOnto (separator : List UInt8) (limit? : Option Nat) (done : List (List UInt8))
    (part : List UInt8) : Nat → List UInt8 → List (List UInt8)
  | _, [] => (part.reverse :: done).reverse
  | skip + 1, _ :: rest => partsOnto separator limit? done part skip rest
  | 0, b :: rest =>
      if limit? != some done.length && separator.isPrefixOf (b :: rest) then
        partsOnto separator limit? (part.reverse :: done) [] (separator.length - 1) rest
      else partsOnto separator limit? done (b :: part) 0 rest

/-- The parts of a text, divided from the left. -/
def partsFromLeft (separator : List UInt8) (limit? : Option Nat) (text : List UInt8) :
    List (List UInt8) :=
  partsOnto separator limit? [] [] 0 text

/-- The parts of a text; those beyond the limit, counted from the right, stay together. -/
def partsFromRight (separator : List UInt8) (limit? : Option Nat) (text : List UInt8) :
    List (List UInt8) :=
  let parts := partsFromLeft separator none text
  match limit? with
  | none => parts
  | some limit =>
      let excess := parts.length - limit
      if excess == 0 then parts
      else ((parts.take excess).intersperse separator).flatten :: parts.drop excess

/-- The lines of a text, with their newlines or without. -/
def linesOf (keepEnds : Bool) (text : List UInt8) : List (List UInt8) :=
  let newline : UInt8 := 10
  let parts := partsFromLeft [newline] none text
  let full := parts.dropLast.map fun part => if keepEnds then part ++ [newline] else part
  full ++ parts.getLast?.toList.filter fun part => !part.isEmpty

end Shorthand.Expression
