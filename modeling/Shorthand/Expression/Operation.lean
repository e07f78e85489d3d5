import Shorthand.Expression.Compare
import Shorthand.Expression.Show

/-!
# Operations on values

What the operators compute, and what indices and slices give.  Integers have no bounds, but a
shift, an index and a number of repetitions have to be small: they have to fit in 32 bits.
-/

namespace Shorthand.Expression

/-! ## Small integers -/

/-- Whether an integer fits in a signed word of so many bits. -/
def fitsBits (bits : Nat) (n : Int) : Bool :=
  let limit : Int := (Nat.pow 2 (bits - 1) : Nat)
  n < limit && -limit ≤ n

/-- A value that is an integer of 32 bits. -/
def Run.small : Value → Run Int
  | .int n => if fitsBits 32 n then pure n else failure
  | _ => failure

/-- A value that is an integer of 64 bits. -/
def Run.word : Value → Run Int
  | .int n => if fitsBits 64 n then pure n else failure
  | _ => failure

/-- A number as an integer; what is after the point is cut off. -/
def Run.whole : Value → Run Int
  | .int n => pure n
  | .float x => if Number.isFinite x then pure (Number.truncate x) else failure
  | _ => failure

/-- A number as a fraction; the integer has to be small enough. -/
def Run.fraction : Value → Run Float
  | .int n => ofOption (Number.ofInt? n)
  | .float x => pure x
  | _ => failure

/-- A number as a fraction; an integer that is too large is infinite. -/
def Run.size : Value → Run Float
  | .int n => pure (Float.ofInt n)
  | .float x => pure x
  | _ => failure

/-! ## Arithmetic -/

/-- Whether a value is a number. -/
def Value.isNumber : Value → Bool
  | int _ | float _ => true
  | _ => false

/-- An operation on two numbers: on integers if both are, and on fractions otherwise. -/
def arithmetic (ints : Int → Int → Int) (floats : Float → Float → Float) (x y : Value) :
    Run Value :=
  match x, y with
  | .int a, .int b => pure (.int (ints a b))
  | x, y => do
      let a ← Run.fraction x
      let b ← Run.fraction y
      return .float (floats a b)

/-- A division, which fails if the divisor is zero. -/
def division (ints : Int → Int → Value) (floats : Float → Float → Float) (x y : Value) :
    Run Value :=
  match x, y with
  | .int a, .int b => if b == 0 then failure else pure (ints a b)
  | x, y => do
      let a ← Run.fraction x
      let b ← Run.fraction y
      if b == 0 then failure else return .float (floats a b)

/-- An operation on two integers. -/
def integral (ints : Int → Int → Int) : Value → Value → Run Value
  | .int a, .int b => pure (.int (ints a b))
  | _, _ => failure

/-- The bits in which either of two integers has a one, as two's complements. -/
def bitOr : Int → Int → Int
  | .ofNat a, .ofNat b => (a ||| b : Nat)
  | .ofNat a, .negSucc b => .negSucc (b - (a &&& b))
  | .negSucc a, .ofNat b => .negSucc (a - (a &&& b))
  | .negSucc a, .negSucc b => .negSucc (a &&& b)

/-- The bits in which both of two integers have a one. -/
def bitAnd (a b : Int) : Int := ~~~(bitOr (~~~a) (~~~b))

/-- The bits in which two integers differ. -/
def bitXor (a b : Int) : Int := bitOr a b - bitAnd a b

/-- The first number of places that is too large for a shift to the left. -/
def shiftLimit : Int := 512

/-- A shift to the left. -/
def shiftLeft : Value → Value → Run Value
  | .int a, .int b =>
      if 0 ≤ b && b < shiftLimit then pure (.int (a * (Nat.pow 2 b.toNat : Nat))) else failure
  | _, _ => failure

/-- A shift to the right. -/
def shiftRight : Value → Value → Run Value
  | .int a, .int b =>
      if 0 ≤ b && fitsBits 32 b then pure (.int (a >>> b.toNat)) else failure
  | _, _ => failure

/-! ## Sequences -/

/-- The first length that is too large for a repetition. -/
def repeatLimit : Nat := 1073741824

/-- Items repeated; a number below one gives none. -/
def repeated {α : Type} (items : List α) (count : Int) : Run (List α) :=
  if items.isEmpty then pure []
  else if !fitsBits 32 count then failure
  else if count < 1 then pure []
  else if repeatLimit ≤ items.length * count.toNat then failure
  else pure (List.replicate count.toNat items).flatten

/-- A sequence repeated. -/
def multiply : Value → Int → Run Value
  | .string bytes, n => return .string (← repeated bytes n)
  | .bytes bytes, n => return .bytes (← repeated bytes n)
  | .tuple items, n => return .tuple (← repeated items n)
  | .list address, n => do Run.newList (← repeated (← Run.listAt address) n)
  | _, _ => failure

/-- Whether one list stands somewhere in another. -/
def occursIn {α : Type} [BEq α] (part : List α) : List α → Bool
  | [] => part.isEmpty
  | a :: rest => part.isPrefixOf (a :: rest) || occursIn part rest

/-- Whether a range has an integer of 32 bits among its items. -/
def rangeHas (start stop step n : Int) : Bool :=
  let distance := n - start
  fitsBits 32 n && distance % step == 0 && 0 ≤ distance.tdiv step &&
    distance.tdiv step < rangeCount start stop step

/-- Whether a value is in another one. -/
def isIn (x y : Value) : Run Bool :=
  match y with
  | .tuple items => Run.among x items
  | .list address => do Run.among x (← Run.listAt address)
  | .dict address => do
      let entries ← Run.dictAt address
      if hashable x then return (← Run.findEntry entries x).isSome else return false
  | .string bytes =>
      match x with
      | .string part => pure (occursIn part bytes)
      | _ => failure
  | .bytes bytes =>
      match x with
      | .bytes part => pure (occursIn part bytes)
      | .int n => if 0 ≤ n && n < 256 then pure (bytes.contains n.toNat.toUInt8) else failure
      | _ => failure
  | .range start stop step => return rangeHas start stop step (← Run.whole x)
  | _ => failure

/-- All entries of a list of entries put into another one, in order. -/
def putAll : List (Value × Value) → List (Value × Value) → Run (List (Value × Value))
  | entries, [] => pure entries
  | entries, (k, v) :: rest => do putAll (← Run.putEntry entries k v) rest

/-! ## Texts with gaps -/

/-- A natural number in a base up to 16. -/
def inBase (base n : Nat) : String := String.ofList (Nat.toDigits base n)

/-- An integer in a base up to 16. -/
def signedInBase (base : Nat) (n : Int) : String :=
  (if n < 0 then "-" else "") ++ inBase base n.natAbs

/-- The character with a number, or the one that stands for a wrong number. -/
def characterOf (n : Nat) : Char :=
  if n.isValidChar then Char.ofNat n else '\uFFFD'

/-- The character that a value stands for in a gap. -/
def gapCharacter : Value → Run Char
  | .int n => if 0 ≤ n && n ≤ 0x10FFFF then pure (characterOf n.toNat) else failure
  | .string bytes =>
      match characters bytes with
      | [c] => pure c
      | _ => failure
  | _ => failure

/-- The text with an exponent that is marked by a capital. -/
def capitalMark (text : String) : String := text.map fun c => if c == 'e' then 'E' else c

/-- A number in a gap of a text, by the letter of the gap.  The letter `F` has no form of its own
and stands for itself. -/
def gapNumber (letter : Char) (x : Float) : Option String :=
  match letter with
  | 'e' => some (Number.signedBy Number.exponential x)
  | 'E' => some (capitalMark (Number.signedBy Number.exponential x))
  | 'f' => some (Number.signedBy Number.positional x)
  | 'F' => some (if Number.isFinite x then "%F" else Number.text x)
  | 'g' => some (Number.text x)
  | 'G' => some (capitalMark (Number.text x))
  | _ => none

/-- A value in a gap of a text, by the letter of the gap. -/
def gapText (letter : Char) (value : Value) : Run (List UInt8) := do
  match letter with
  | 's' => return plainText (← Run.objects) value
  | 'r' => return utf8 (shownText (← Run.objects) value)
  | 'd' | 'i' => return utf8 (toString (← Run.whole value))
  | 'o' => return utf8 (signedInBase 8 (← Run.whole value))
  | 'x' => return utf8 (signedInBase 16 (← Run.whole value))
  | 'X' => return utf8 ((signedInBase 16 (← Run.whole value)).map Char.toUpper)
  | 'c' => return String.utf8EncodeChar (← gapCharacter value)
  | '%' => return utf8 "%"
  | letter => return utf8 (← Run.ofOption (gapNumber letter (← Run.size value)))

/-- The letter that a byte is. -/
def letterOf (byte : UInt8) : Char := Char.ofNat byte.toNat

/-- A text whose gaps are filled: all values have to be used, unless gaps have names. -/
def filled (whole : Value) (args : List Value) (done : List UInt8) : Run (List UInt8) :=
  if args.isEmpty || whole matches .dict _ then pure done.reverse else failure

/-- Fills the gaps of a text.  `args` are the values that are left, `whole` is the value on the
right, from which gaps with names take theirs, and `done` is the text before, the last byte
first.  The fuel is more than the length of the text. -/
def fillGaps (whole : Value) : Nat → List Value → List UInt8 → List UInt8 → Run (List UInt8)
  | 0, _, _, _ => failure
  | fuel + 1, args, done, format =>
      match format with
      | [] => filled whole args done
      | byte :: format =>
          if letterOf byte != '%' then fillGaps whole fuel args (byte :: done) format
          else
            match format with
            | [] => failure
            | next :: rest =>
                if letterOf next == '%' then fillGaps whole fuel args (next :: done) rest
                else if letterOf next == '(' then do
                  let key := rest.takeWhile (letterOf · != ')')
                  match whole, rest.drop key.length with
                  | .dict address, _ :: letter :: rest =>
                      match ← Run.findEntry (← Run.dictAt address) (.string key) with
                      | some value =>
                          let text ← gapText (letterOf letter) value
                          fillGaps whole fuel (args.drop 1) (text.reverse ++ done) rest
                      | none => failure
                  | _, _ => failure
                else
                  match args with
                  | [] => failure
                  | value :: args => do
                      let text ← gapText (letterOf next) value
                      fillGaps whole fuel args (text.reverse ++ done) rest

/-- A text with its gaps filled. -/
def interpolate (format : List UInt8) (value : Value) : Run Value := do
  let args := if let .tuple items := value then items else [value]
  return .string (← fillGaps value (format.length + 1) args [] format)

/-! ## Operators -/

/-- An operator before a value. -/
def unary (op : UnaryOp) (x : Value) : Run Value :=
  match op, x with
  | .plus, .int _ | .plus, .float _ => pure x
  | .minus, .int n => pure (.int (-n))
  | .minus, .float x => pure (.float (-x))
  | .invert, .int n => pure (.int (~~~n))
  | .not, x => return .bool !(← Run.holds x)
  | _, _ => failure

/-- The sum of two values. -/
def sum (x y : Value) : Run Value :=
  match x, y with
  | .string a, .string b => pure (.string (a ++ b))
  | .bytes a, .bytes b => pure (.bytes (a ++ b))
  | .tuple a, .tuple b => pure (.tuple (a ++ b))
  | .list a, .list b => do Run.newList ((← Run.listAt a) ++ (← Run.listAt b))
  | x, y => arithmetic (· + ·) (· + ·) x y

/-- The product of two values. -/
def product (x y : Value) : Run Value :=
  match x, y with
  | .int a, y => if y.isNumber then arithmetic (· * ·) (· * ·) (.int a) y else multiply y a
  | x, .int b => if x.isNumber then arithmetic (· * ·) (· * ·) x (.int b) else multiply x b
  | x, y => arithmetic (· * ·) (· * ·) x y

/-- The remainder, or a text with its gaps filled. -/
def remainder (x y : Value) : Run Value :=
  match x, y with
  | .string format, y => interpolate format y
  | x, y => division (fun a b => .int (Int.fmod a b)) Number.floorMod x y

/-- The union of two dictionaries, or of the bits of two integers. -/
def union (x y : Value) : Run Value :=
  match x, y with
  | .dict a, .dict b => do Run.newDict (← putAll (← Run.dictAt a) (← Run.dictAt b))
  | x, y => integral bitOr x y

/-- The integer as a fraction, for a division; it has no bounds, so it may be too large. -/
def quotient (a b : Int) : Run Value := do
  let x ← Run.ofOption (Number.ofInt? a)
  let y ← Run.ofOption (Number.ofInt? b)
  if y == 0 then failure else return .float (x / y)

/-- An operator between two values. -/
def binary (op : BinaryOp) (x y : Value) : Run Value :=
  match op with
  | .add => sum x y
  | .sub => arithmetic (· - ·) (· - ·) x y
  | .mul => product x y
  | .div =>
      match x, y with
      | .int a, .int b => quotient a b
      | x, y => division (fun a _ => .int a) (· / ·) x y
  | .floorDiv =>
      division (fun a b => .int (Int.fdiv a b)) (fun a b => (a / b).floor) x y
  | .mod => remainder x y
  | .bitAnd => integral bitAnd x y
  | .bitOr => union x y
  | .bitXor => integral bitXor x y
  | .shiftLeft => shiftLeft x y
  | .shiftRight => shiftRight x y
  | .eq => return .bool (← Run.equal x y)
  | .ne => return .bool !(← Run.equal x y)
  | .lt => return .bool ((← Run.order x y) == .lt)
  | .gt => return .bool ((← Run.order x y) == .gt)
  | .le => return .bool ((← Run.order x y) != .gt)
  | .ge => return .bool ((← Run.order x y) != .lt)
  | .isIn => return .bool (← isIn x y)
  | .notIn => return .bool !(← isIn x y)

/-! ## Indices and slices -/

/-- The items that indices count, if the value has any. -/
def indexed (value : Value) : Run (List Value) :=
  match value with
  | .string bytes => pure (viewItems bytes .elems)
  | .bytes bytes => pure (bytes.map fun b => .bytes [b])
  | .view .elems _ | .view .elemOrds _ | .tuple _ | .list _ | .range _ _ _ => Run.items value
  | _ => failure

/-- The item at an index; a negative index counts from the end. -/
def itemAt (items : List Value) (index : Value) : Run Value := do
  let i ← Run.small index
  let i := if i < 0 then i + items.length else i
  if i < 0 then failure else Run.ofOption items[i.toNat]?

/-- The value at an index or a key. -/
def index (x i : Value) : Run Value := do
  match x with
  | .dict address =>
      let found ← Run.findEntry (← Run.dictAt address) i
      Run.ofOption found
  | _ => itemAt (← indexed x) i

/-- A bound of a slice: without one, or with none given, `otherwise`. -/
def bound (count : Nat) (otherwise : Int) : Option Value → Run Int
  | none | some .none => pure otherwise
  | some value => do
      let i ← Run.small value
      return if i < 0 then i + count else i

/-- An integer moved into bounds. -/
def clamp (low high n : Int) : Int := max low (min high n)

/-- The two ends of a part of a sequence, from the first up to and without the second. -/
def bounds (count : Nat) (low high : Option Value) : Run (Int × Int) := do
  let start ← bound count 0 low
  let stop ← bound count count high
  return (clamp 0 count start, clamp 0 count stop)

/-- The ends and the step of a slice. -/
def sliceRange (count : Nat) (low high step : Option Value) : Run (Int × Int × Int) := do
  let step ←
    match step with
    | none | some .none => pure 1
    | some value => Run.small value
  if step == 0 then failure
  else if 0 < step then
    let (start, stop) ← bounds count low high
    return (start, max start stop, step)
  else
    let start ← bound count (count - 1) low
    let start := min start (count - 1)
    let stop ← bound count (-1) high
    let stop := max (-1) stop
    return (max start stop, stop, step)

/-- The items of a slice. -/
def sliceItems {α : Type} (items : List α) (start stop step : Int) : List α :=
  let all := items.toArray
  (List.range (rangeCount start stop step)).filterMap fun (k : Nat) =>
    all[(start + (k : Int) * step).toNat]?

/-- A slice of a value. -/
def slice (x : Value) (low high step : Option Value) : Run Value := do
  match x with
  | .string bytes =>
      let (start, stop, step) ← sliceRange bytes.length low high step
      return .string (sliceItems bytes start stop step)
  | .bytes bytes =>
      let (start, stop, step) ← sliceRange bytes.length low high step
      return .bytes (sliceItems bytes start stop step)
  | .tuple items =>
      let (start, stop, step) ← sliceRange items.length low high step
      return .tuple (sliceItems items start stop step)
  | .list address =>
      let items ← Run.listAt address
      let (start, stop, step) ← sliceRange items.length low high step
      Run.newList (sliceItems items start stop step)
  | .range first last by_ =>
      let (start, stop, step) ← sliceRange (rangeCount first last by_) low high step
      return .range (first + by_ * start) (first + by_ * stop) (by_ * step)
  | _ => failure

/-- Puts a value at an index of a list, or at a key of a dictionary. -/
def setIndex (x i value : Value) : Run Unit := do
  match x with
  | .list address =>
      let items ← Run.listAt address
      let i ← Run.small i
      let i := if i < 0 then i + items.length else i
      if 0 ≤ i && i < items.length then Run.setList address (items.set i.toNat value)
      else failure
  | .dict address => Run.setDict address (← Run.putEntry (← Run.dictAt address) i value)
  | _ => failure

end Shorthand.Expression
