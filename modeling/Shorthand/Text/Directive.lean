import Shorthand.Text.Escaped

/-!
# Directives of messages

A place in a message shows its argument by a letter: `v` as it is, `d`, `b`, `o`, `x`, `X`, `c`,
`q` and `U` an integer, `s`, `x`, `X`, `q` and `m` a text, and `T` only the kind of the argument.
Marks before the letter say how it is filled up and signed.  Integers in decimal have commas
between groups of three digits, unless a mark asks for a literal.

An argument of the wrong kind is written out as such.
-/

namespace Shorthand.Text

/-- An argument of a message. -/
inductive Arg where
  | text (value : String)
  | integer (value : Int)
deriving DecidableEq, Inhabited

/-- The marks of a directive. -/
structure Style where
  /-- Positive numbers have a sign; quoted texts are all ASCII. -/
  plus : Bool := false
  /-- What is filled up is filled up on the right. -/
  minus : Bool := false
  /-- The base of a number is marked. -/
  sharp : Bool := false
  /-- Positive numbers have a blank for a sign; bytes are apart. -/
  space : Bool := false
  /-- What is filled up on the left is filled up with zeros. -/
  zero : Bool := false
  /-- A value is shown as a literal. -/
  literal : Bool := false
  /-- The least number of characters. -/
  width? : Option Nat := none
  /-- The least number of digits, or the largest number of characters of a text. -/
  precision? : Option Nat := none
deriving DecidableEq, Inhabited

/-! ## Filling up -/

/-- So many characters. -/
def filler (count : Nat) (c : Char) : String := String.ofList (List.replicate count c)

namespace Style

/-- A text filled up to the width. -/
def fillUp (style : Style) (text : String) : String :=
  let missing := filler (style.width?.getD 0 - text.length) (if style.zero then '0' else ' ')
  if style.minus then text ++ missing else missing ++ text

/-- A text filled up to the width with blanks. -/
def fillBlank (style : Style) (text : String) : String := { style with zero := false }.fillUp text

/-- A text cut off at the precision. -/
def cutOff (style : Style) (text : String) : String :=
  match style.precision? with
  | some count => String.ofList (text.toList.take count)
  | none => text

end Style

/-! ## Integers -/

/-- Digits with a comma between groups of three, counted from the right.  The digits come with
the last one first, and so does the result. -/
def groupReversed : List Char → List Char
  | a :: b :: c :: d :: rest => a :: b :: c :: ',' :: groupReversed (d :: rest)
  | digits => digits

/-- The sign of an integer. -/
def Style.sign (style : Style) (n : Int) : String :=
  if n < 0 then "-" else if style.plus then "+" else if style.space then " " else ""

/-- The digits of a number, at least so many: of zero there may be none. -/
def leastDigits (count base n : Nat) : List Char :=
  let digits := if n == 0 && count == 0 then [] else Nat.toDigits base n
  List.replicate (count - digits.length) '0' ++ digits

/-- The least number of digits of an integer with commas.  Zeros that fill it up count as
digits. -/
def Style.groupedDigits (style : Style) : Nat :=
  match style.precision?, style.width? with
  | some count, _ => count
  | none, some width =>
      if style.zero then max 1 (width - if style.plus || style.space then 1 else 0) else 1
  | none, none => 1

/-- An integer in decimal with commas between groups of three digits. -/
def Style.grouped (style : Style) (n : Int) : String :=
  let digits := leastDigits style.groupedDigits 10 n.natAbs
  style.fillBlank (style.sign n ++ String.ofList (groupReversed digits.reverse).reverse)

/-- The least number of digits of an integer without commas, which leaves room for a sign. -/
def Style.plainDigits (style : Style) (n : Int) : Nat :=
  match style.precision?, style.width? with
  | some count, _ => count
  | none, some width =>
      if style.zero then max 1 (width - if (style.sign n).isEmpty then 0 else 1) else 1
  | none, none => 1

/-- The mark of the base before digits. -/
def Style.baseMark (style : Style) (base : Nat) (digits : List Char) : String :=
  if !style.sharp then ""
  else if base == 16 then "0x"
  else if base == 8 && digits.head? != some '0' then "0"
  else ""

/-- An integer in a base.  If there may be no digits, zero is left out with its sign. -/
def Style.inBase (style : Style) (base : Nat) (n : Int) : String :=
  let digits := leastDigits (style.plainDigits n) base n.natAbs
  if digits.isEmpty then style.fillBlank ""
  else style.fillBlank (style.sign n ++ style.baseMark base digits ++ String.ofList digits)

/-- The largest code point. -/
def lastPoint : Nat := 0x10FFFF

/-- An integer as a word of 64 bits without a sign. -/
def wordOf (n : Int) : Nat := (n % (Nat.pow 2 64 : Nat)).toNat

/-- The character with a number, or the one that stands for a wrong number. -/
def characterAt (n : Nat) : Char := if n.isValidChar then Char.ofNat n else '\uFFFD'

/-- A character between quotes of a kind, all ASCII if asked for. -/
def quotedChar (ascii : Bool) (mark c : Char) : String :=
  if ascii && '~' < c then Escaped.charEscape c else Escaped.inside mark c

/-- An integer as the number of a character. -/
def Style.codePoint (style : Style) (n : Nat) : String :=
  let digits := leastDigits (max 4 (style.precision?.getD 0)) 16 n
  let shown :=
    if style.sharp && n ≤ lastPoint && isVisible (characterAt n) && n.isValidChar then
      " '" ++ String.singleton (characterAt n) ++ "'"
    else ""
  style.fillBlank ("U+" ++ (String.ofList digits).map Char.toUpper ++ shown)

/-! ## Texts -/

/-- Whether a text can stand between backward quotes. -/
def isRaw (text : String) : Bool :=
  text.toList.all fun c =>
    (' ' ≤ c || c == '\t') && c != '\x60' && c != '\x7f' && c != '\uFEFF' && c != '\uFFFD'

/-- A text between quotes. -/
def Style.quoted (style : Style) (text : String) : String :=
  let text := style.cutOff text
  if style.sharp && isRaw text then style.fillUp ("\x60" ++ text ++ "\x60")
  else
    style.fillUp
      ("\"" ++ String.join (text.toList.map (quotedChar style.plus '"')) ++ "\"")

/-- The bytes of a text in base 16. -/
def Style.bytes (style : Style) (text : String) : String :=
  let all := text.toUTF8.toList
  let bytes := all.take (style.precision?.getD all.length)
  let mark := if style.sharp then "0x" else ""
  let pairs := bytes.map fun byte => Escaped.hexDigits 2 byte.toNat
  style.fillUp <|
    if pairs.isEmpty then ""
    else if style.space then " ".intercalate (pairs.map (mark ++ ·))
    else mark ++ String.join pairs

/-! ## Arguments -/

namespace Arg

/-- The name of the argument's kind. -/
def kindName : Arg → String
  | text _ => "string"
  | integer _ => "int64"

/-- The argument as it is. -/
def plain (style : Style) : Arg → String
  | text value => if style.literal then style.quoted value else style.fillUp (style.cutOff value)
  | integer n => if style.sharp || style.literal then style.inBase 10 n else style.grouped n

/-- What a text shows by a letter. -/
def textBy? (style : Style) (value : String) : Char → Option String
  | 's' => some (style.fillUp (style.cutOff value))
  | 'x' => some (style.bytes value)
  | 'X' => some ((style.bytes value).map Char.toUpper)
  | 'q' => some (style.quoted value)
  | 'm' => some value
  | _ => none

/-- What an integer shows by a letter. -/
def integerBy? (style : Style) (n : Int) : Char → Option String
  | 'd' => some (plain style (.integer n))
  | 'b' => some (style.inBase 2 n)
  | 'o' => some (style.inBase 8 n)
  | 'x' => some (style.inBase 16 n)
  | 'X' => some ((style.inBase 16 n).map Char.toUpper)
  | 'c' => some (style.fillUp (String.singleton (characterAt (wordOf n))))
  | 'q' =>
      if wordOf n ≤ lastPoint then
        some (style.fillUp ("'" ++ quotedChar style.plus '\'' (characterAt (wordOf n)) ++ "'"))
      else none
  | 'U' => some (style.codePoint (wordOf n))
  | _ => none

/-- What the argument shows by a letter. -/
def shownBy? (style : Style) (verb : Char) (arg : Arg) : Option String :=
  if verb == 'v' then some (arg.plain style)
  else if verb == 'T' then some (style.fillUp (style.cutOff arg.kindName))
  else
    match arg with
    | text value => textBy? style value verb
    | integer n => integerBy? style n verb

/-- The argument written as out of place: its kind and its value. -/
def described (style : Style) (arg : Arg) : String := arg.kindName ++ "=" ++ arg.plain style

/-- What a place with the given letter shows of the argument. -/
def place (style : Style) (verb : Char) (arg : Arg) : String :=
  match arg.shownBy? style verb with
  | some shown => shown
  | none => "%!" ++ String.singleton verb ++ "(" ++ arg.described style ++ ")"

end Arg

end Shorthand.Text
