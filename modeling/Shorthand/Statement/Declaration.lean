import Shorthand.Statement.Operand

/-!
# Reading declarations

The forms after the keyword:

* `int NAME` and `byte NAME`, possibly with `= VALUE, …`,
* `int[SIZE] NAME` and `byte[SIZE] NAME`,
* `string NAME = "…"`,
* `var[SIZE] NAME`,
* `const NAME = …`, where the value is whatever follows, without the blanks between its tokens.
-/

namespace Shorthand

/-- Reads the name that is declared. -/
def readName : List Token → Except Problem (Reading String)
  | [] => failWith .nameInvalid [""]
  | tok :: rest => if tok.isName then .ok (tok.text, rest) else failWith .nameInvalid [tok.print]

/-- Reads one initial value, which has to take all the tokens. -/
def readInitial (tokens : List Token) : Except Problem Immediate := do
  let (value, rest) ← readImmediate tokens
  noMore rest
  return value

/-- Reads what follows `int` or `byte`. -/
def readSized (width : Width) (body : List Token) : Except Problem Declaration :=
  if (body.head?.map (·.is "[")).getD false then do
    let (size, rest) ← readSize body
    let (name, rest) ← readName rest
    noMore rest
    return .array width name size
  else do
    let (name, rest) ← readName body
    match rest with
    | tok :: values =>
        if tok.is "=" then do
          let init ← (splitAtOp "," values).mapM readInitial
          return .scalar width name init
        else failWith .trailing [joinTokens rest]
    | [] => return .scalar width name []

/-- Reads an equals sign after the name that is declared. -/
def readEquals (name : String) : List Token → Except Problem (List Token)
  | tok :: rest => if tok.is "=" then .ok rest else failWith .expected ["=", name]
  | [] => failWith .expected ["=", name]

/-- Reads what follows `string`. -/
def readString (body : List Token) : Except Problem Declaration := do
  let (name, rest) ← readName body
  let rest ← readEquals name rest
  match rest with
  | tok :: more =>
      if tok.kind == .string then do
        noMore more
        return .string name tok.text
      else failWith .expected ["\"", joinTokens rest]
  | [] => failWith .expected ["\"", ""]

/-- Reads what follows `var`. -/
def readBuffer (body : List Token) : Except Problem Declaration := do
  let (size, rest) ← readSize body
  let (name, rest) ← readName rest
  noMore rest
  return .buffer name size

/-- Reads what follows `const`. -/
def readConst (body : List Token) : Except Problem Declaration := do
  let (name, rest) ← readName body
  let rest ← readEquals name rest
  if rest.isEmpty then failWith .expected ["value", name ++ " ="]
  else return .const name (String.join (rest.map Token.print))

/-- The keywords that start a declaration. -/
def declarationWords : List String := ["int", "byte", "string", "var", "const"]

/-- Reads what follows the keyword of a declaration. -/
def readDeclaration (word : String) (body : List Token) : Except Problem Declaration :=
  match word with
  | "int" => readSized .word body
  | "byte" => readSized .byte body
  | "string" => readString body
  | "var" => readBuffer body
  | _ => readConst body

end Shorthand
