/-!
# Binary floating point numbers, exactly

A finite number is `m · 2 ^ e` for integers `m` and `e`.  From this form follow the integer
part, the comparison with integers, the remainder, and the shortest decimal that reads back as
the same number, all in exact arithmetic.
-/

namespace Shorthand.Expression.Number

/-- A finite number as `(m, e)` with value `m · 2 ^ e`.  Of infinities and of what is no number
the result means nothing. -/
def exact (x : Float) : Int × Int :=
  let bits : Nat := x.toBits.toNat
  let fraction : Nat := bits % Nat.pow 2 52
  let exponent : Nat := bits / Nat.pow 2 52 % 2048
  let magnitude : Nat := if exponent == 0 then fraction else fraction + Nat.pow 2 52
  let power : Int := if exponent == 0 then -1074 else (exponent : Int) - 1075
  (if bits / Nat.pow 2 63 == 1 then -(magnitude : Int) else magnitude, power)

/-- Whether the number is finite. -/
def isFinite (x : Float) : Bool := !x.isNaN && !x.isInf

/-- The number as a fraction. -/
def fraction (x : Float) : Int × Nat :=
  let (m, e) := exact x
  if e < 0 then (m, Nat.pow 2 e.natAbs) else (m * (Nat.pow 2 e.natAbs : Nat), 1)

/-- The integer part: what is after the point is cut off. -/
def truncate (x : Float) : Int :=
  let (n, d) := fraction x
  n.tdiv d

/-- How an integer compares with a finite number. -/
def compareInt (n : Int) (x : Float) : Ordering :=
  let (m, d) := fraction x
  compare (n * d) m

/-- The number `m · 2 ^ e`. -/
def ofExact (m e : Int) : Float := (Float.ofInt m).scaleB e

/-- Whether the sign bit is set, as it also is of a negative zero. -/
def isNegative (x : Float) : Bool := x.toBits.toNat / Nat.pow 2 63 == 1

/-- The remainder of a division of finite numbers that rounds toward zero, with the sign of the
dividend. -/
def finiteRemainder (x y : Float) : Float :=
  let (m, e) := exact x
  let (k, f) := exact y
  let low := min e f
  let a := m * (Nat.pow 2 (e - low).natAbs : Nat)
  let b := k * (Nat.pow 2 (f - low).natAbs : Nat)
  let z := ofExact (a.tmod b) low
  if z == 0 && isNegative x then -0.0 else z

/-- The remainder of a division that rounds toward zero.  An infinite dividend leaves no number,
and an infinite divisor leaves the dividend. -/
def remainder (x y : Float) : Float :=
  if x.isNaN || y.isNaN || x.isInf then 0 / 0
  else if y.isInf then x
  else finiteRemainder x y

/-- The remainder that has the sign of the divisor. -/
def floorMod (x y : Float) : Float :=
  let z := remainder x y
  if (x < 0) != (y < 0) && z != 0 then z + y else z

/-- The number closest to an integer, if it is finite. -/
def ofInt? (n : Int) : Option Float :=
  let x := Float.ofInt n
  if isFinite x then some x else none

/-! ## Decimal text -/

/-- Decimal digits `digits` (without trailing zeros, first digit not zero) and the position
`point` of the decimal point: the number is `0.digits · 10 ^ point`. -/
structure Decimal where
  digits : List Nat
  point : Int

/-- The digits of a natural number, the most significant one first. -/
def digitsOf (n : Nat) : List Nat := (Nat.toDigits 10 n).map fun c => c.toNat - '0'.toNat

/-- The number of decimal digits before the point of a positive fraction: the least `p` with
value below `10 ^ p`, searched upward from `p`. -/
def magnitudeFrom (n d : Nat) : Nat → Int → Int
  | 0, p => p
  | fuel + 1, p =>
      let below := if p < 0 then n * Nat.pow 10 p.natAbs < d else n < d * Nat.pow 10 p.natAbs
      if below then p else magnitudeFrom n d fuel (p + 1)

/-- The value of a decimal of `count` digits with the given integer of digits. -/
def decimalValue (digits : Nat) (count : Nat) (point : Int) : Float :=
  let power : Int := point - count
  if power < 0 then Float.ofScientific digits true power.natAbs
  else Float.ofScientific digits false power.natAbs

/-- Searches the decimals of `count` digits and more for the first that reads back as `x`, whose
value is `n / d`; of two with equally many digits the nearer one. -/
def shortestFrom (x : Float) (n d : Nat) (point : Int) : Nat → Nat → Decimal
  | 0, count => ⟨digitsOf (n * Nat.pow 10 count / d), point⟩
  | fuel + 1, count =>
      let shift : Int := count - point
      let (num, den) :=
        if shift < 0 then (n, d * Nat.pow 10 shift.natAbs) else (n * Nat.pow 10 shift.natAbs, d)
      let low := num / den
      let up := 2 * (num % den) > den || (2 * (num % den) == den && low % 2 == 1)
      let first := if up then low + 1 else low
      let second := if up then low else low + 1
      if decimalValue first count point == x then
        ⟨digitsOf first, point + (digitsOf first).length - count⟩
      else if decimalValue second count point == x then
        ⟨digitsOf second, point + (digitsOf second).length - count⟩
      else shortestFrom x n d point fuel (count + 1)

/-- The shortest decimal that reads back as the positive number. -/
def shortest (x : Float) : Decimal :=
  let (n, d) := fraction x
  let point := magnitudeFrom n.natAbs d 700 (-330)
  let found := shortestFrom x n.natAbs d point 17 1
  { found with digits := (found.digits.reverse.dropWhile (· == 0)).reverse }

/-- Digits as text. -/
def showDigits (digits : List Nat) : String :=
  String.ofList (digits.map fun d => Char.ofNat ('0'.toNat + d))

/-- The text of a positive decimal: with an exponent below `10 ^ -4` and from `10 ^ 6` on, and
positional between them. -/
def showDecimal (value : Decimal) : String :=
  let exponent := value.point - 1
  if exponent < -4 || 6 ≤ exponent then
    let head := showDigits (value.digits.take 1)
    let tail := value.digits.drop 1
    let mantissa := if tail.isEmpty then head else head ++ "." ++ showDigits tail
    let power := toString exponent.natAbs
    mantissa ++ "e" ++ (if exponent < 0 then "-" else "+") ++
      (if power.length < 2 then "0" ++ power else power)
  else if value.point ≤ 0 then
    "0." ++ showDigits (List.replicate value.point.natAbs 0 ++ value.digits)
  else
    let places := value.point.natAbs
    let whole := value.digits.take places
    let part := value.digits.drop places
    showDigits (whole ++ List.replicate (places - whole.length) 0) ++
      (if part.isEmpty then ".0" else "." ++ showDigits part)

/-- The text of a number, which always shows that it is no integer. -/
def text (x : Float) : String :=
  if x.isNaN then "nan"
  else if x.isInf then (if x < 0 then "-inf" else "+inf")
  else if x == 0 then (if isNegative x then "-0.0" else "0.0")
  else if x < 0 then "-" ++ showDecimal (shortest (-x))
  else showDecimal (shortest x)

/-! ## Text with six places -/

/-- The integer next to a quotient; of two that are equally near the even one. -/
def nearest (n d : Nat) : Nat :=
  let low := n / d
  let twice := 2 * (n % d)
  if d < twice || (twice == d && low % 2 == 1) then low + 1 else low

/-- The places after the point. -/
def places : Nat := 6

/-- The digits of a number, filled up with zeros in front. -/
def filledDigits (count n : Nat) : String :=
  let digits := showDigits (digitsOf n)
  String.ofList (List.replicate (count - digits.length) '0') ++ digits

/-- An integer that counts units of the last place, with its point. -/
def pointed (units : Nat) : String :=
  toString (units / Nat.pow 10 places) ++ "." ++
    filledDigits places (units % Nat.pow 10 places)

/-- The size of a finite number with six places after the point. -/
def positional (x : Float) : String :=
  let (n, d) := fraction x
  pointed (nearest (n.natAbs * Nat.pow 10 places) d)

/-- The size of a finite number that is not zero as units of the last of six places, for one digit
before the point, with the exponent. -/
def scaled (x : Float) : Nat × Int :=
  let (n, d) := fraction x
  let exponent := magnitudeFrom n.natAbs d 700 (-330) - 1
  let shift : Int := places - exponent
  let units :=
    if shift < 0 then nearest n.natAbs (d * Nat.pow 10 shift.natAbs)
    else nearest (n.natAbs * Nat.pow 10 shift.natAbs) d
  if units == Nat.pow 10 (places + 1) then (Nat.pow 10 places, exponent + 1)
  else (units, exponent)

/-- The size of a finite number with one digit before the point, six after it, and an exponent. -/
def exponential (x : Float) : String :=
  let (units, exponent) := if x == 0 then (0, 0) else scaled x
  pointed units ++ "e" ++ (if exponent < 0 then "-" else "+") ++ filledDigits 2 exponent.natAbs

/-- A number by the text of its size; infinities and what is no number have a text of their
own. -/
def signedBy (size : Float → String) (x : Float) : String :=
  if !isFinite x then text x else (if isNegative x then "-" else "") ++ size x

end Shorthand.Expression.Number
