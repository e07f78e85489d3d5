/-!
# Reading bytes as text

Source text comes as bytes.  Bytes that are well formed UTF-8 are read as their characters,
and every other byte on its own as the replacement character, so that reading never fails.
-/

namespace Shorthand.Text.Utf8

/-- The character that stands for a byte that is part of no well formed sequence. -/
def replacement : Char := '\uFFFD'

/-- Whether the byte continues a sequence. -/
def continues (b : UInt8) : Bool := 0x80 ≤ b && b ≤ 0xBF

/-- The low six bits, which are what a continuation byte carries. -/
def payload (b : UInt8) : Nat := b.toNat % 64

/-- Whether two bytes form a sequence: a code point from U+0080 on. -/
def isPair (a b : UInt8) : Bool := 0xC2 ≤ a && a ≤ 0xDF && continues b

/-- Whether three bytes form a sequence: a code point from U+0800 on that is no surrogate. -/
def isTriple (a b c : UInt8) : Bool :=
  0xE0 ≤ a && a ≤ 0xEF && continues b && continues c &&
    (a != 0xE0 || 0xA0 ≤ b) && (a != 0xED || b ≤ 0x9F)

/-- Whether four bytes form a sequence: a code point from U+10000 to U+10FFFF. -/
def isQuadruple (a b c d : UInt8) : Bool :=
  0xF0 ≤ a && a ≤ 0xF4 && continues b && continues c && continues d &&
    (a != 0xF0 || 0x90 ≤ b) && (a != 0xF4 || b ≤ 0x8F)

/-- The character of a sequence of two bytes. -/
def pairChar (a b : UInt8) : Char := Char.ofNat (a.toNat % 32 * 64 + payload b)

/-- The character of a sequence of three bytes. -/
def tripleChar (a b c : UInt8) : Char :=
  Char.ofNat ((a.toNat % 16 * 64 + payload b) * 64 + payload c)

/-- The character of a sequence of four bytes. -/
def quadrupleChar (a b c d : UInt8) : Char :=
  Char.ofNat (((a.toNat % 8 * 64 + payload b) * 64 + payload c) * 64 + payload d)

/-- The character that starts with the byte `a`, with the bytes after it.  Where no well formed
sequence starts, the byte alone is replaced. -/
def next (a : UInt8) (rest : List UInt8) : Char × List UInt8 :=
  if a < 0x80 then (Char.ofNat a.toNat, rest)
  else
    match rest with
    | b :: c :: d :: tail =>
        if isPair a b then (pairChar a b, c :: d :: tail)
        else if isTriple a b c then (tripleChar a b c, d :: tail)
        else if isQuadruple a b c d then (quadrupleChar a b c d, tail)
        else (replacement, b :: c :: d :: tail)
    | [b, c] =>
        if isPair a b then (pairChar a b, [c])
        else if isTriple a b c then (tripleChar a b c, [])
        else (replacement, [b, c])
    | [b] => if isPair a b then (pairChar a b, []) else (replacement, [b])
    | [] => (replacement, [])

theorem length_next_le (a : UInt8) (rest : List UInt8) :
    (next a rest).2.length ≤ rest.length := by
  unfold next
  repeat' split
  all_goals simp <;> omega

/-- The characters of the bytes, after the reversed characters that were read before them. -/
def decodeOnto (read : List Char) : List UInt8 → List Char
  | [] => read.reverse
  | a :: rest => decodeOnto ((next a rest).1 :: read) (next a rest).2
termination_by bytes => bytes.length
decreasing_by
  have := length_next_le a rest
  simp
  omega

/-- The bytes that a character was read from, at the front of the byte `a` and the `rest`. -/
def own (c : Char) (a : UInt8) (rest : List UInt8) : List UInt8 :=
  let whole := String.utf8EncodeChar c
  if whole.isPrefixOf (a :: rest) then whole else [a]

/-- The characters of the bytes, each with the bytes it was read from, after those that were
read before them, the last one first. -/
def piecesOnto (read : List (Char × List UInt8)) : List UInt8 → List (Char × List UInt8)
  | [] => read.reverse
  | a :: rest =>
      piecesOnto (((next a rest).1, own (next a rest).1 a rest) :: read) (next a rest).2
termination_by bytes => bytes.length
decreasing_by
  have := length_next_le a rest
  simp
  omega

/-- The characters of the bytes, each with the bytes it was read from. -/
def pieces (bytes : List UInt8) : List (Char × List UInt8) := piecesOnto [] bytes

/-- The text that the bytes stand for. -/
def decode (bytes : List UInt8) : String := String.ofList (decodeOnto [] bytes)

end Shorthand.Text.Utf8
