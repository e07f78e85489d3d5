import Shorthand.Expression.Arguments

/-!
# Templates

A template is a text with fields between braces.  A field takes the next argument, or the one
with a number or a name; numbers cannot be mixed with fields that have none.  After an
exclamation mark it says whether the argument is shown as it is or as a literal.  A brace that
is text is written twice.
-/

namespace Shorthand.Expression

namespace Template

/-- The byte of an ASCII character. -/
def byteOf (c : Char) : UInt8 := c.toNat.toUInt8

/-- The brace that starts a field. -/
def opening : UInt8 := byteOf '\x7b'

/-- The brace that ends a field. -/
def closing : UInt8 := byteOf '\x7d'

/-- How the fields before have chosen their arguments. -/
inductive Numbering where
  | undecided
  /-- In order: the number of the next one. -/
  | automatic (next : Nat)
  | manual

/-- A field: the choice of its argument, how it is shown, and details, which are not
supported. -/
structure Field where
  name : List UInt8
  conversion : List UInt8
  details : List UInt8

/-- Bytes up to a character and after it; nothing is after it if it does not occur. -/
def cut (c : Char) (bytes : List UInt8) : List UInt8 × Option (List UInt8) :=
  let before := bytes.takeWhile (· != byteOf c)
  match bytes.drop before.length with
  | _ :: after => (before, some after)
  | [] => (before, none)

/-- A field from its text. -/
def fieldOf (text : List UInt8) : Field :=
  match cut '!' text with
  | (name, some rest) =>
      let (conversion, details?) := cut ':' rest
      ⟨name, conversion, details?.getD []⟩
  | (_, none) =>
      let (name, details?) := cut ':' text
      ⟨name, [byteOf 's'], details?.getD []⟩

/-- The number that a name is, counted in words of 64 bits; a name with another character is
none, and neither is one whose number becomes negative. -/
def numberOf? (name : List UInt8) : Option Nat :=
  (name.foldlM (fun (n : Int) byte =>
    if byteOf '0' ≤ byte && byte ≤ byteOf '9' then
      let m := Int.bmod (n * 10 + ((byte - byteOf '0').toNat : Int)) (Nat.pow 2 64)
      if m < 0 then none else some m
    else none) 0).map Int.toNat

/-- The argument that a name chooses, with the numbering after it. -/
def choose (args : Args) (numbering : Numbering) (name : List UInt8) : Run (Value × Numbering) :=
  if name.isEmpty then
    match numbering with
    | .manual => failure
    | .undecided => return (← Run.ofOption args.positional[0]?, .automatic 1)
    | .automatic next => return (← Run.ofOption args.positional[next]?, .automatic (next + 1))
  else
    match numberOf? name with
    | some n =>
        match numbering with
        | .automatic _ => failure
        | _ => return (← Run.ofOption args.positional[n]?, .manual)
    | none => do
        let found := args.named.find? fun (given, _) => utf8 given == name
        return ((← Run.ofOption found).2, numbering)

/-- An argument as a conversion shows it. -/
def shown (conversion : List UInt8) (value : Value) : Run (List UInt8) := do
  if conversion == [byteOf 's'] then return plainText (← Run.objects) value
  else if conversion == [byteOf 'r'] then
    return utf8 (shownText (← Run.objects) value)
  else failure

/-- Fills the fields of a template.  `done` is the text before, the last byte first, and the fuel
is more than the length of the template. -/
def fillFields (args : Args) : Nat → Numbering → List UInt8 → List UInt8 → Run (List UInt8)
  | 0, _, _, _ => failure
  | _ + 1, _, done, [] => pure done.reverse
  | fuel + 1, numbering, done, byte :: rest =>
      if byte == closing then
        match rest with
        | next :: rest =>
            if next == closing then fillFields args fuel numbering (closing :: done) rest
            else failure
        | [] => failure
      else if byte != opening then fillFields args fuel numbering (byte :: done) rest
      else if rest.head? == some opening then
        fillFields args fuel numbering (opening :: done) rest.tail
      else
        match cut '\x7d' rest with
        | (_, none) => failure
        | (text, some rest) => do
            let field := fieldOf text
            let (value, numbering) ← choose args numbering field.name
            Run.require field.details.isEmpty
            let text ← shown field.conversion value
            fillFields args fuel numbering (text.reverse ++ done) rest

/-- A template with its fields filled. -/
def fill (template : List UInt8) (args : Args) : Run (List UInt8) :=
  fillFields args (template.length + 1) .undecided [] template

end Template

end Shorthand.Expression
