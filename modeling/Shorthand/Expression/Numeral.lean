import Shorthand.Expression.Literal

/-!
# Numbers from text

Which texts stand for numbers when a program asks for it.  An integer is read in a base, which a
mark in front may confirm or, if none is asked for, choose.  A fraction is decimal or hexadecimal,
and underscores may separate its digits; the exponent of a hexadecimal one counts powers of two
and cannot be left out.  Infinity and what is no number have names.
-/

namespace Shorthand.Expression

/-! ## Integers -/

/-- The base that a mark at the start of digits stands for. -/
def markedBase? : List Char → Option Nat
  | '0' :: mark :: _ :: _ =>
      if mark == 'x' || mark == 'X' then some 16
      else if mark == 'o' || mark == 'O' then some 8
      else if mark == 'b' || mark == 'B' then some 2
      else none
  | _ => none

/-- The integer that digits stand for in a base. -/
def digitsIn? (base : Nat) (digits : List Char) : Option Nat :=
  if digits.isEmpty || !digits.all (Literal.isDigitIn base) then none
  else some (Literal.value base digits)

/-- The integer that digits stand for.  They may have a mark of the base; with a base of zero the
mark decides, and digits without one have no zero in front. -/
def unsignedIn? (base : Nat) (digits : List Char) : Option Nat :=
  match markedBase? digits with
  | some marked =>
      if base == 0 || base == marked then digitsIn? marked (digits.drop 2)
      else digitsIn? base digits
  | none =>
      if base != 0 then digitsIn? base digits
      else if digits.length > 1 && digits.head? == some '0' then
        if digits.all (· == '0') then some 0 else none
      else digitsIn? 10 digits

/-- The integer that a text stands for. -/
def integerIn? (base : Nat) : List Char → Option Int
  | '-' :: digits => (unsignedIn? base digits).map fun n => -(n : Int)
  | '+' :: digits => (unsignedIn? base digits).map fun n => (n : Int)
  | digits => (unsignedIn? base digits).map fun n => (n : Int)

/-! ## Fractions -/

/-- Whether every underscore stands between digits; `afterDigit` says whether a digit stands
before the characters. -/
def underscoresFit (isDigit : Char → Bool) (afterDigit : Bool) : List Char → Bool
  | [] => true
  | '_' :: rest =>
      afterDigit && (rest.head?.map isDigit).getD false && underscoresFit isDigit false rest
  | c :: rest => underscoresFit isDigit (isDigit c) rest

/-- The digits of a number: those before its point, those after it, and the characters that
follow them. -/
def significand (isDigit : Char → Bool) (chars : List Char) :
    List Char × List Char × List Char :=
  let whole := chars.takeWhile isDigit
  match chars.dropWhile isDigit with
  | '.' :: rest => (whole, rest.takeWhile isDigit, rest.dropWhile isDigit)
  | rest => (whole, [], rest)

/-- Reads the exponent after one of two marks, which has to be the last thing; its size is
bounded, since no number is that large or that small. -/
def exponent? (small capital : Char) : List Char → Option (Option Int)
  | [] => some none
  | mark :: rest =>
      let (negative, digits) : Bool × List Char :=
        match rest with
        | '-' :: digits => (true, digits)
        | '+' :: digits => (false, digits)
        | digits => (false, digits)
      if (mark != small && mark != capital) || digits.isEmpty || !digits.all Literal.isDecimal then
        none
      else
        let n : Int := min 99999 (Literal.value 10 digits)
        some (some (if negative then -n else n))

/-- The number closest to `m · 2 ^ e`, if it is finite. -/
def ofBinary? (m : Nat) (e : Int) : Option Float :=
  let x :=
    if m == 0 then 0
    else if e < 0 then Float.ofScientific (m * Nat.pow 5 e.natAbs) true e.natAbs
    else if 2000 < e then Float.ofScientific 1 false 400
    else Float.ofScientific (m * Nat.pow 2 e.natAbs) false 0
  if Number.isFinite x then some x else none

/-- The number that hexadecimal digits stand for. -/
def hexadecimalFloat? (chars : List Char) : Option Float := do
  let (whole, part, rest) := significand (Literal.isDigitIn 16) chars
  let power ← (← exponent? 'p' 'P' rest)
  if whole.isEmpty && part.isEmpty then none
  else ofBinary? (Literal.value 16 (whole ++ part)) (power - 4 * part.length)

/-- The number that decimal digits stand for. -/
def decimalFloat? (chars : List Char) : Option Float := do
  let (whole, part, rest) := significand Literal.isDecimal chars
  let power ← exponent? 'e' 'E' rest
  if whole.isEmpty && part.isEmpty then none else Literal.float? whole part (power.getD 0)

/-- The number that a text without a sign stands for. -/
def unsignedFloat? (chars : List Char) : Option Float :=
  let plain := chars.filter (· != '_')
  match chars with
  | '0' :: mark :: c :: rest =>
      if mark == 'x' || mark == 'X' then
        if underscoresFit (Literal.isDigitIn 16) true (c :: rest) then
          hexadecimalFloat? (plain.drop 2)
        else none
      else if underscoresFit Literal.isDecimal false chars then decimalFloat? plain
      else none
  | _ => if underscoresFit Literal.isDecimal false chars then decimalFloat? plain else none

/-- The number that a text stands for. -/
def floatOf? (chars : List Char) : Option Float :=
  let (negative, body) : Bool × List Char :=
    match chars with
    | '-' :: body => (true, body)
    | '+' :: body => (false, body)
    | body => (false, body)
  let word := String.ofList (body.map Char.toLower)
  let x? :=
    if word == "inf" || word == "infinity" then some (1 / 0)
    else if word == "nan" then some (0 / 0)
    else unsignedFloat? body
  x?.map fun x => if negative then -x else x

end Shorthand.Expression
