import Shorthand.Text.Integer

/-!
# Quoted strings

The bytes that a string literal stands for.  Between the quotes a backslash starts an escape:
a control character by its letter, the quote or the backslash itself, a byte by two
hexadecimal or three octal digits, or a code point by four or eight hexadecimal digits.
Every other character stands for its own UTF-8 bytes.
-/

namespace Shorthand.Text.Quoted

/-- Reads hexadecimal digits, all of which have to be digits. -/
def hex? (digits : List Char) : Option Nat :=
  digits.foldl (fun value? c => do
    let value ← value?
    let digit ← Integer.digitValue? c
    if digit < 16 then some (value * 16 + digit) else none) (some 0)

/-- The byte that a backslash and a single letter stand for between double quotes. -/
def controlByte? : Char → Option UInt8
  | 'a' => some 7
  | 'b' => some 8
  | 'f' => some 12
  | 'n' => some 10
  | 'r' => some 13
  | 't' => some 9
  | 'v' => some 11
  | '\\' => some 92
  | '"' => some 34
  | _ => none

/-- The character at a code point, if it is one. -/
def character? (point : Nat) : Option Char :=
  if h : point.isValidChar then some (Char.ofNatAux point h) else none

/-- The digits of an octal escape as a byte. -/
def octalByte? (a b c : Char) : Option UInt8 :=
  let digit? (d : Char) : Option Nat :=
    if '0' ≤ d && d ≤ '7' then some (d.toNat - '0'.toNat) else none
  match digit? a, digit? b, digit? c with
  | some x, some y, some z =>
      let value := (x * 8 + y) * 8 + z
      if value < 256 then some value.toUInt8 else none
  | _, _, _ => none

/-- The bytes of the characters between the quotes. -/
def contents? : List Char → Option (List UInt8)
  | [] => some []
  | '\\' :: 'x' :: a :: b :: rest =>
      match hex? [a, b] with
      | some value => (contents? rest).map (value.toUInt8 :: ·)
      | none => none
  | '\\' :: 'u' :: a :: b :: c :: d :: rest =>
      match (hex? [a, b, c, d]).bind character? with
      | some char => (contents? rest).map (String.utf8EncodeChar char ++ ·)
      | none => none
  | '\\' :: 'U' :: a :: b :: c :: d :: e :: f :: g :: h :: rest =>
      match (hex? [a, b, c, d, e, f, g, h]).bind character? with
      | some char => (contents? rest).map (String.utf8EncodeChar char ++ ·)
      | none => none
  | ['\\'] => none
  | '\\' :: a :: rest =>
      match controlByte? a with
      | some byte => (contents? rest).map (byte :: ·)
      | none =>
          match rest with
          | b :: c :: rest' =>
              match octalByte? a b c with
              | some byte => (contents? rest').map (byte :: ·)
              | none => none
          | _ => none
  | c :: rest =>
      if c == '"' || c == '\n' then none
      else (contents? rest).map (String.utf8EncodeChar c ++ ·)

/-- The bytes of a whole literal, with its double quotes. -/
def bytes? (literal : String) : Option (List UInt8) :=
  match literal.toList with
  | '"' :: rest =>
      match rest.getLast? with
      | some '"' => contents? rest.dropLast
      | _ => none
  | _ => none

end Shorthand.Text.Quoted
