/-!
# Integer literals

The written form of an integer: an optional sign, an optional mark of the base (`0x`, `0o`,
`0b`, or a leading `0` for octal), and digits, which single underscores may separate.  An
underscore stands directly after a digit or the mark of the base, and directly before a
digit.

`magnitude?` reads the part after the sign.  `signed?` and `unsigned?` read a whole literal
that has to fit a signed or an unsigned word of 64 bits.
-/

namespace Shorthand.Text.Integer

/-- The value of a digit or a letter as a digit, in any base up to 36. -/
def digitValue? (c : Char) : Option Nat :=
  if '0' ≤ c && c ≤ '9' then some (c.toNat - '0'.toNat)
  else if 'a' ≤ c && c ≤ 'z' then some (c.toNat - 'a'.toNat + 10)
  else if 'A' ≤ c && c ≤ 'Z' then some (c.toNat - 'A'.toNat + 10)
  else none

/-- Reads further digits of a number in the given base, passing over underscores. -/
def readDigits? (base : Nat) (value : Nat) : List Char → Option Nat
  | [] => some value
  | '_' :: rest => readDigits? base value rest
  | c :: rest =>
      match digitValue? c with
      | some digit => if digit < base then readDigits? base (value * base + digit) rest else none
      | none => none

/-- Whether every underscore stands between digits.  `afterDigit` says whether a digit, or
the mark of the base, stands before the characters. -/
def separated (afterDigit : Bool) : List Char → Bool
  | [] => true
  | ['_'] => false
  | '_' :: c :: rest => afterDigit && c != '_' && separated true (c :: rest)
  | _ :: rest => separated true rest

/-- The base of a literal without sign, with its digits and whether a mark of the base stands
before them. -/
def splitBase : List Char → Nat × Bool × List Char
  | '0' :: mark :: digit :: rest =>
      if mark == 'b' || mark == 'B' then (2, true, digit :: rest)
      else if mark == 'o' || mark == 'O' then (8, true, digit :: rest)
      else if mark == 'x' || mark == 'X' then (16, true, digit :: rest)
      else (8, true, mark :: digit :: rest)
  | '0' :: rest => (8, true, rest)
  | chars => (10, false, chars)

/-- The value of a literal without sign. -/
def magnitude? (chars : List Char) : Option Nat :=
  if chars.isEmpty then none
  else
    let (base, marked, digits) := splitBase chars
    if separated marked digits then readDigits? base 0 digits else none

/-- The least number that does not fit a signed word of 64 bits. -/
def signedLimit : Nat := 9223372036854775808

/-- The least number that does not fit an unsigned word of 64 bits. -/
def unsignedLimit : Nat := 18446744073709551616

/-- The number as a signed word of 64 bits, if it fits. -/
def fitsSigned (n : Int) : Bool := -(signedLimit : Int) ≤ n && n < signedLimit

/-- Reads a literal with an optional sign that fits a signed word of 64 bits. -/
def signed? (text : String) : Option Int :=
  let value? : Option Int :=
    match text.toList with
    | '-' :: rest => (magnitude? rest).map fun n => -(n : Int)
    | '+' :: rest => (magnitude? rest).map fun n => (n : Int)
    | chars => (magnitude? chars).map fun n => (n : Int)
  value?.filter fitsSigned

/-- Reads a literal without sign that fits an unsigned word of 64 bits. -/
def unsigned? (text : String) : Option Nat :=
  (magnitude? text.toList).filter (· < unsignedLimit)

/-- Whether the text is an integer of 64 bits, signed or unsigned. -/
def isNumber (text : String) : Bool := (signed? text).isSome || (unsigned? text).isSome

end Shorthand.Text.Integer
