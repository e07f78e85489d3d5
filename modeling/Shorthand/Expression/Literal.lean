import Shorthand.Expression.Number
import Shorthand.Expression.Token
import Shorthand.Text.Integer
import Shorthand.Text.Quoted

/-!
# Literals of expressions

Numbers are decimal integers of any size, hexadecimal ones, octal and binary ones of at most
64 bits, and decimal fractions.  An integer does not start with a zero, unless it is zero.

A string stands between quotes of either kind, single or threefold.  A backslash starts an
escape, unless the string is marked as raw by an `r` before it.  A `b` before the quotes makes
it a sequence of bytes.
-/

namespace Shorthand.Expression.Literal

open Text

/-- Whether the character is a decimal digit. -/
def isDecimal (c : Char) : Bool := '0' ≤ c && c ≤ '9'

/-- Whether the character is a digit in the base. -/
def isDigitIn (base : Nat) (c : Char) : Bool :=
  match Integer.digitValue? c with
  | some value => value < base
  | none => false

/-- The value of digits in a base. -/
def value (base : Nat) (digits : List Char) : Nat :=
  digits.foldl (fun n c => n * base + (Integer.digitValue? c).getD 0) 0

/-! ## Numbers -/

/-- Reads the digits after the mark of a base.  There has to be one, and the value has to be
below the limit, if there is one. -/
def readBased? (base : Nat) (limit? : Option Nat) (chars : List Char) :
    Option (Tok × List Char) :=
  let digits := chars.takeWhile (isDigitIn base)
  let n := value base digits
  let tooLarge := match limit? with
    | some limit => decide (limit ≤ n)
    | none => false
  if digits.isEmpty || tooLarge then none
  else some (.int n, chars.dropWhile (isDigitIn base))

/-- The digits of an exponent with its sign, and the characters after it.  There is none if the
characters do not start one, and it is wrong if it has no digits. -/
inductive Exponent where
  | absent
  | wrong
  | power (value : Int) (rest : List Char)

/-- Reads an exponent. -/
def readExponent : List Char → Exponent
  | [] => .absent
  | c :: rest =>
      if c == 'e' || c == 'E' then
        let (negative, digits) : Bool × List Char :=
          match rest with
          | '-' :: digits => (true, digits)
          | '+' :: digits => (false, digits)
          | digits => (false, digits)
        let power := digits.takeWhile isDecimal
        if power.isEmpty then .wrong
        else
          let n : Int := value 10 power
          .power (if negative then -n else n) (digits.dropWhile isDecimal)
      else .absent

/-- The number with the digits before and after the point, times a power of ten; nothing if it
is too large. -/
def float? (whole part : List Char) (power : Int) : Option Float :=
  let mantissa := value 10 (whole ++ part)
  let exponent := power - part.length
  let x :=
    if mantissa == 0 then 0
    else if exponent < -2000 - ((whole ++ part).length : Int) then 0
    else if 2000 < exponent then Float.ofScientific 1 false 400
    else if exponent < 0 then Float.ofScientific mantissa true exponent.natAbs
    else Float.ofScientific mantissa false exponent.natAbs
  if Number.isFinite x then some x else none

/-- Reads a fraction or an exponent after the digits of a whole number. -/
def readFloat? (whole : List Char) (chars : List Char) : Option (Option Float × List Char) :=
  let (pointed, part, rest) : Bool × List Char × List Char :=
    match chars with
    | '.' :: more => (true, more.takeWhile isDecimal, more.dropWhile isDecimal)
    | _ => (false, [], chars)
  match readExponent rest with
  | .wrong => none
  | .absent => if pointed then (float? whole part 0).map (some ·, rest) else some (none, rest)
  | .power power rest => (float? whole part power).map (some ·, rest)

/-- Reads a number that starts with a decimal digit. -/
def readDecimal? (chars : List Char) : Option (Tok × List Char) :=
  let whole := chars.takeWhile isDecimal
  match readFloat? whole (chars.dropWhile isDecimal) with
  | none => none
  | some (some x, rest) => some (.float x, rest)
  | some (none, rest) =>
      if whole.head? == some '0' && whole.any (· != '0') then none
      else some (.int (value 10 whole), rest)

/-- Reads a number, or the point that stands before none. -/
def readNumber? : List Char → Option (Tok × List Char)
  | '.' :: rest =>
      if (rest.head?.map isDecimal).getD false then
        match readFloat? [] ('.' :: rest) with
        | some (some x, rest) => some (.float x, rest)
        | _ => none
      else some (.mark .dot, rest)
  | '0' :: mark :: rest =>
      if mark == 'x' || mark == 'X' then readBased? 16 none rest
      else if mark == 'o' || mark == 'O' then readBased? 8 (some Integer.signedLimit) rest
      else if mark == 'b' || mark == 'B' then readBased? 2 (some Integer.signedLimit) rest
      else readDecimal? ('0' :: mark :: rest)
  | chars => readDecimal? chars

/-! ## Strings -/

/-- Goes on to the quote that closes a string on one line.  The characters passed over are
`taken`, the last one first. -/
def closeSingle (quote : Char) (taken : List Char) : List Char → Option (List Char × List Char)
  | [] => none
  | '\\' :: c :: rest => closeSingle quote (c :: '\\' :: taken) rest
  | c :: rest =>
      if c == quote then some (taken.reverse, rest)
      else if c == '\n' then none
      else closeSingle quote (c :: taken) rest

/-- Goes on to the threefold quote that closes a string. -/
def closeTriple (quote : Char) (taken : List Char) : List Char → Option (List Char × List Char)
  | [] => none
  | '\\' :: c :: rest => closeTriple quote (c :: '\\' :: taken) rest
  | a :: b :: c :: rest =>
      if a == quote && b == quote && c == quote then some (taken.reverse, rest)
      else closeTriple quote (a :: taken) (b :: c :: rest)
  | c :: rest => closeTriple quote (c :: taken) rest

/-- The byte that a backslash and a single letter stand for. -/
def controlByte? (c : Char) : Option UInt8 :=
  if c == '\'' then some 39 else Quoted.controlByte? c

/-- The digits of an octal escape, at most three, with what follows them. -/
def octalDigits (chars : List Char) : List Char × List Char :=
  let digits := (chars.take 3).takeWhile (isDigitIn 8)
  (digits, chars.drop digits.length)

/-- A byte written by its number.  In a text it has to be ASCII. -/
def numberedByte? (isBytes : Bool) (n : Nat) : Option UInt8 :=
  if n < (if isBytes then 256 else 128) then some n.toUInt8 else none

/-- The bytes of the characters between the quotes, with escapes.  The fuel is their number. -/
def unescape? (isBytes : Bool) : Nat → List Char → Option (List UInt8)
  | _, [] => some []
  | 0, _ => none
  | fuel + 1, '\\' :: c :: rest =>
      if c == '\n' then unescape? isBytes fuel rest
      else if isDigitIn 8 c then
        let (digits, rest) := octalDigits (c :: rest)
        match numberedByte? isBytes (value 8 digits) with
        | some byte => (unescape? isBytes fuel rest).map (byte :: ·)
        | none => none
      else if c == 'x' then
        match (Quoted.hex? (rest.take 2)).bind (numberedByte? isBytes) with
        | some byte =>
            if rest.length < 2 then none
            else (unescape? isBytes fuel (rest.drop 2)).map (byte :: ·)
        | none => none
      else if c == 'u' || c == 'U' then
        let count := if c == 'u' then 4 else 8
        match (Quoted.hex? (rest.take count)).bind Quoted.character? with
        | some char =>
            if rest.length < count then none
            else (unescape? isBytes fuel (rest.drop count)).map (String.utf8EncodeChar char ++ ·)
        | none => none
      else
        match controlByte? c with
        | some byte => (unescape? isBytes fuel rest).map (byte :: ·)
        | none => none
  | fuel + 1, c :: rest =>
      if c == '\\' then none
      else (unescape? isBytes fuel rest).map (String.utf8EncodeChar c ++ ·)

/-- Reads a string from its opening quote on. -/
def readString? (raw isBytes : Bool) : List Char → Option (Tok × List Char)
  | [] => none
  | quote :: rest =>
      let closed? :=
        if rest.take 2 == [quote, quote] then closeTriple quote [] (rest.drop 2)
        else closeSingle quote [] rest
      match closed? with
      | none => none
      | some (contents, rest) =>
          let bytes? :=
            if raw then some (contents.flatMap String.utf8EncodeChar)
            else unescape? isBytes contents.length contents
          bytes?.map fun bytes => (if isBytes then .bytes bytes else .string bytes, rest)

end Shorthand.Expression.Literal
