import Shorthand.Text.Directive

/-!
# Messages

A message is a template with places for arguments.  A place is a percent sign, marks, and a
letter; `%%` is a percent sign.  Places take the arguments in order.  A number in brackets goes
to another argument, from which the order goes on, and a star takes the width or the precision
from an argument.

A place without an argument and an argument without a place are written out as such.  The last
of them only when the template has taken at least one argument, and only those in order: a
template may be written without any.
-/

namespace Shorthand.Text

/-! ## Numbers -/

/-- The largest width or precision. -/
def sizeLimit : Nat := 1000000

/-- Whether the character is a decimal digit. -/
def isDecimalDigit (c : Char) : Bool := '0' ≤ c && c ≤ '9'

/-- The value of decimal digits. -/
def decimalValue (digits : List Char) : Nat :=
  digits.foldl (fun n c => n * 10 + (c.toNat - '0'.toNat)) 0

/-- Reads a number, if there is one.  One that goes on beyond the limit takes all that follows
with it. -/
def readSize (chars : List Char) : Option Nat × List Char :=
  let digits := chars.takeWhile isDecimalDigit
  if sizeLimit < decimalValue digits.dropLast then (none, [])
  else if digits.isEmpty then (none, chars)
  else (some (decimalValue digits), chars.drop digits.length)

/-! ## Directives -/

/-- Where the reading of a template stands. -/
structure Reader where
  /-- The template that is left. -/
  rest : List Char
  /-- The number of the next argument. -/
  next : Nat
  /-- Whether the order of the arguments was left. -/
  reordered : Bool
  /-- Whether the directive goes to arguments that there are. -/
  good : Bool
  /-- Whether a number in brackets was read last. -/
  afterIndex : Bool
  style : Style
  /-- Complaints about the width and the precision. -/
  complaint : String

namespace Reader

/-- Reads the marks before the width. -/
def readMarks (style : Style) : List Char → Style × List Char
  | '#' :: rest => readMarks { style with sharp := true } rest
  | '0' :: rest => readMarks { style with zero := !style.minus } rest
  | '+' :: rest => readMarks { style with plus := true } rest
  | '-' :: rest => readMarks { style with minus := true, zero := false } rest
  | ' ' :: rest => readMarks { style with space := true } rest
  | rest => (style, rest)

/-- The number between brackets, with what follows them; nothing follows if they do not close. -/
def bracketed (chars : List Char) : Option Nat × Option (List Char) :=
  let inside := chars.takeWhile (· != ']')
  match chars.drop inside.length with
  | [] => (none, none)
  | _ :: after =>
      match readSize inside with
      | (some n, []) => (some n, some after)
      | _ => (none, some after)

/-- Reads a number in brackets, if there is one, and goes to the argument with the number. -/
def readIndex (args : List Arg) (r : Reader) : Reader :=
  match r.rest with
  | '[' :: chars =>
      let r := { r with reordered := true }
      match bracketed chars with
      | (some n, some after) =>
          if 1 ≤ n && n ≤ args.length then
            { r with rest := after, next := n - 1, afterIndex := true }
          else { r with rest := after, good := false, afterIndex := true }
      | (none, some after) =>
          let after := if chars.length < 2 then chars else after
          { r with rest := after, good := false, afterIndex := false }
      | (_, none) => { r with rest := chars, good := false, afterIndex := false }
  | _ => { r with afterIndex := false }

/-- The next argument as a size. -/
def sizeArgument? (args : List Arg) (r : Reader) : Option Int :=
  match args[r.next]? with
  | some (.integer n) => if n.natAbs ≤ sizeLimit then some n else none
  | _ => none

/-- Goes on to the argument after the next one, if there is a next one. -/
def skipArgument (args : List Arg) (r : Reader) : Reader :=
  { r with next := if r.next < args.length then r.next + 1 else r.next, afterIndex := false }

/-- Reads the width. -/
def readWidth (args : List Arg) (r : Reader) : Reader :=
  match r.rest with
  | '*' :: rest =>
      let found := r.sizeArgument? args
      let r := { r.skipArgument args with rest := rest }
      match found with
      | none => { r with complaint := "%!(BADWIDTH)" }
      | some n =>
          let style := { r.style with width? := some n.natAbs }
          { r with style := if n < 0 then { style with minus := true, zero := false } else style }
  | chars =>
      let (width?, rest) := readSize chars
      { r with rest := rest, style := { r.style with width? := width? },
               good := r.good && !(r.afterIndex && width?.isSome) }

/-- Reads the precision after its point. -/
def readPoint (args : List Arg) (r : Reader) : Reader :=
  let r := ({ r with good := r.good && !r.afterIndex }).readIndex args
  match r.rest with
  | '*' :: rest =>
      let found := r.sizeArgument? args
      let r := { r.skipArgument args with rest := rest }
      match found with
      | some (.ofNat n) => { r with style := { r.style with precision? := some n } }
      | _ => { r with complaint := "%!(BADPREC)" }
  | chars =>
      let (precision?, rest) := readSize chars
      { r with rest := rest, style := { r.style with precision? := some (precision?.getD 0) } }

/-- Reads the precision, if there is one; a point at the end of the template starts none. -/
def readPrecision (args : List Arg) (r : Reader) : Reader :=
  match r.rest with
  | '.' :: c :: rest => ({ r with rest := c :: rest }).readPoint args
  | _ => r

/-- Reads what stands between the percent sign and the letter. -/
def readDirective (args : List Arg) (r : Reader) : Reader :=
  let (style, rest) := readMarks {} r.rest
  let r := { r with rest := rest, style := style, good := true, complaint := "" }
  let r := ((r.readIndex args).readWidth args).readPrecision args
  if r.afterIndex then r else r.readIndex args

end Reader

/-! ## Templates -/

/-- The style by which a letter shows its argument: as it is, a mark of the base asks for a
literal, and a sign for nothing. -/
def styleFor (verb : Char) (style : Style) : Style :=
  if verb == 'v' then { style with literal := style.sharp, sharp := false, plus := false }
  else style

/-- What a letter shows at the end of a directive, and where the reading stands after it. -/
def showVerb (args : List Arg) (verb : Char) (r : Reader) : String × Reader :=
  if verb == '%' then ("%", r)
  else if !r.good then ("%!" ++ String.singleton verb ++ "(BADINDEX)", r)
  else
    let after := { r with next := r.next + 1 }
    match args[r.next]? with
    | none => ("%!" ++ String.singleton verb ++ "(MISSING)", after)
    | some arg => (r.complaint ++ arg.place (styleFor verb r.style) verb, after)

/-- The arguments that are left when the template ends. -/
def surplus (args : List Arg) (r : Reader) : String :=
  let left := args.drop r.next
  if r.reordered || r.next == 0 || left.isEmpty then ""
  else "%!(EXTRA " ++ ", ".intercalate (left.map (Arg.described {})) ++ ")"

/-- Fills the rest of a template.  The fuel is more than its length. -/
def fill (args : List Arg) : Nat → Reader → String
  | 0, _ => ""
  | fuel + 1, r =>
      match r.rest with
      | [] => surplus args r
      | '%' :: rest =>
          let r := ({ r with rest := rest }).readDirective args
          match r.rest with
          | [] => "%!(NOVERB)" ++ surplus args r
          | verb :: rest =>
              let (text, r) := showVerb args verb { r with rest := rest }
              text ++ fill args fuel r
      | c :: rest => String.singleton c ++ fill args fuel { r with rest := rest }

/-- The message of a template with its arguments. -/
def message (template : String) (args : List Arg) : String :=
  let chars := template.toList
  fill args (chars.length + 1) ⟨chars, 0, false, true, false, {}, ""⟩

end Shorthand.Text
