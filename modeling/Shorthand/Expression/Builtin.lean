import Shorthand.Expression.Arguments
import Shorthand.Expression.Numeral

/-!
# The built in functions

All of them but those that may call another function, which are part of the evaluation itself.
-/

namespace Shorthand.Expression

/-! ## Numbers -/

/-- The characters of bytes that are all ASCII. -/
def asciiText? (bytes : List UInt8) : Option (List Char) :=
  if bytes.all (· < 128) then some (bytes.map letterOf) else none

/-- The integer that a value stands for. -/
def toInt (x : Value) (base : Option Value) : Run Value :=
  match x, base with
  | .string bytes, none => return .int (← Run.ofOption ((asciiText? bytes).bind (integerIn? 10)))
  | .string bytes, some base => do
      let base ← Run.small base
      Run.require (base == 0 || (2 ≤ base && base ≤ 36))
      return .int (← Run.ofOption ((asciiText? bytes).bind (integerIn? base.toNat)))
  | .bool value, none => pure (.int value.toNat)
  | x, none => return .int (← Run.whole x)
  | _, some _ => failure

/-- The number that a value stands for. -/
def toFloat : Value → Run Value
  | .bool value => pure (.float (if value then 1 else 0))
  | .string bytes => return .float (← Run.ofOption ((asciiText? bytes).bind floatOf?))
  | x => return .float (← Run.fraction x)

/-! ## Texts -/

/-- The number of a text of one character, or of one byte. -/
def toOrd : Value → Run Value
  | .string bytes =>
      match characters bytes with
      | [c] => pure (.int c.toNat)
      | _ => failure
  | .bytes [byte] => pure (.int byte.toNat)
  | _ => failure

/-- The text of the character with a number. -/
def toChr (x : Value) : Run Value := do
  let n ← Run.small x
  if 0 ≤ n && n ≤ 0x10FFFF then return .string (String.utf8EncodeChar (characterOf n.toNat))
  else failure

/-- The number of words of 32 bits. -/
def wordCount : Nat := 4294967296

/-- The number of a text: each character is added to 31 times the number before it, in 32 bits
with a sign. -/
def textHash (chars : List Char) : Int :=
  (chars.foldl (fun h c => Int.bmod (31 * h + c.toNat) wordCount) 0 : Int)

/-- The number of bytes: each is mixed in and spread by a multiplication, in 32 bits. -/
def bytesHash (bytes : List UInt8) : Nat :=
  bytes.foldl (fun h b => ((h ^^^ b.toNat) * 16777619) % wordCount) 2166136261

/-- The number of a text or of bytes. -/
def toHash : Value → Run Value
  | .string bytes => pure (.int (textHash (characters bytes)))
  | .bytes bytes => pure (.int (bytesHash bytes))
  | _ => failure

/-- A value as text. -/
def toText (x : Value) : Run Value := do
  match x with
  | .string _ => return x
  | .bytes bytes => return .string ((characters bytes).flatMap String.utf8EncodeChar)
  | x => return .string (plainText (← Run.objects) x)

/-- A value as bytes. -/
def toBytes (x : Value) : Run Value := do
  match x with
  | .bytes _ => return x
  | .string bytes => return .bytes ((characters bytes).flatMap String.utf8EncodeChar)
  | x =>
      let items ← Run.items x
      let bytes ← items.mapM fun item => do
        let n ← Run.small item
        if 0 ≤ n && n < 256 then return n.toNat.toUInt8 else failure
      return .bytes bytes

/-- A value as it is printed. -/
def printedText (x : Value) : Run (List UInt8) := do
  match x with
  | .bytes bytes => return bytes
  | x => return plainText (← Run.objects) x

/-- Values joined for printing. -/
def printedLine (sep : List UInt8) (values : List Value) : Run (List UInt8) := do
  let texts ← values.mapM printedText
  return (texts.intersperse sep).flatten

/-- The text between printed values. -/
def separatorOf : Option Value → Run (List UInt8)
  | none => pure [32]
  | some (.string bytes) => pure bytes
  | some _ => failure

/-! ## Collections -/

/-- A pair as an entry of a dictionary; its length has to be known. -/
def entryOf (pair : Value) : Run (Value × Value) := do
  Run.require (lengthOf? (← Run.objects) pair == some 2)
  match ← Run.items pair with
  | [key, value] => return (key, value)
  | _ => failure

/-- The entries of a dictionary, or of a sequence of pairs. -/
def entriesOf (x : Value) : Run (List (Value × Value)) := do
  match x with
  | .dict address => Run.dictAt address
  | x => (← Run.items x).mapM entryOf

/-- The entries that arguments give. -/
def givenEntries (args : Args) : Run (List (Value × Value)) := do
  let first ←
    match args.positional with
    | [] => pure []
    | [x] => entriesOf x
    | _ => failure
  return first ++ args.named.map fun (name, value) => (Value.text name, value)

/-- The rows of columns, as many as the shortest column has. -/
def rows : Nat → List (List Value) → List Value
  | 0, _ => []
  | count + 1, columns =>
      if columns.isEmpty || columns.any List.isEmpty then []
      else .tuple (columns.filterMap List.head?) :: rows count (columns.map List.tail)

/-- Items with their numbers. -/
def numbered (start : Int) (items : List Value) : List Value :=
  (items.zip (List.range items.length)).map fun (item, (k : Nat)) =>
    Value.tuple [.int (start + (k : Int)), item]

/-- The length of a value. -/
def toLength (x : Value) : Run Value := do
  return .int (← Run.ofOption (lengthOf? (← Run.objects) x))

/-- A range with its bounds and its step. -/
def toRange (args : Args) : Run Value := do
  let bounds ← (← args.between 1 3).mapM Run.word
  match bounds with
  | [stop] => return .range 0 stop 1
  | [start, stop] => return .range start stop 1
  | [start, stop, step] => if step == 0 then failure else return .range start stop step
  | _ => failure

/-- The value without its sign. -/
def toAbs : Value → Run Value
  | .int n => pure (.int n.natAbs)
  | .float x => pure (.float x.abs)
  | _ => failure

/-- Calls a built in function that calls no other function. -/
def callSimple (function : Builtin) (args : Args) : Run Value := do
  match function with
  | .abs => toAbs (← args.one)
  | .all => return .bool ((← (← Run.items (← args.one)).mapM Run.holds).all id)
  | .any => return .bool ((← (← Run.items (← args.one)).mapM Run.holds).any id)
  | .bool =>
      match ← args.between 0 1 with
      | [x] => return .bool (← Run.holds x)
      | _ => return .bool false
  | .bytes => toBytes (← args.one)
  | .chr => toChr (← args.one)
  | .dict => Run.newDict (← putAll [] (← givenEntries args))
  | .enumerate =>
      match ← args.between 1 2 with
      | [x] => Run.newList (numbered 0 (← Run.items x))
      | [x, start] => Run.newList (numbered (← Run.word start) (← Run.items x))
      | _ => failure
  | .float =>
      match ← args.between 0 1 with
      | [x] => toFloat x
      | _ => return .float 0
  | .hash => toHash (← args.one)
  | .int =>
      match ← args.fill ["x", "base"] 1 with
      | [some x] => toInt x none
      | [some x, base] => toInt x base
      | _ => failure
  | .len => toLength (← args.one)
  | .list =>
      match ← args.between 0 1 with
      | [x] => Run.newList (← Run.items x)
      | _ => Run.newList []
  | .ord => toOrd (← args.one)
  | .print =>
      match ← (Args.mk [] args.named).fill ["sep"] 0 with
      | [sep] =>
          Run.print (← printedLine (← separatorOf sep) args.positional)
          return .none
      | _ => failure
  | .range => toRange args
  | .repr => return .text (shownText (← Run.objects) (← args.one))
  | .reversed => Run.newList (← Run.items (← args.one)).reverse
  | .str => toText (← args.one)
  | .tuple =>
      match ← args.between 0 1 with
      | [x] => return .tuple (← Run.items x)
      | _ => return .tuple []
  | .type => return .text (← args.one).typeName
  | .zip => do
      Run.require args.named.isEmpty
      let columns ← args.positional.mapM Run.items
      let most := (columns.map List.length).foldl max 0
      Run.newList (rows most columns)
  | .dir | .fail | .getattr | .hasattr | .max | .min | .sorted => failure

end Shorthand.Expression
