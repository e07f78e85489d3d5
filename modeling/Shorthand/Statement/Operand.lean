import Shorthand.Diagnostic
import Shorthand.Statement
import Shorthand.Text.Integer

/-!
# Reading operands

The parts that statements are made of, each read off the front of a list of tokens: immediate
values, registers, bracketed offsets and casts.  A reader returns what it read together with
the tokens after it, or the problem that it met first.
-/

namespace Shorthand

open Text

/-- What a reader read, with the tokens after it. -/
abbrev Reading (α : Type) := α × List Token

/-- Fails with a code whose details are texts. -/
def failWith {α : Type} (code : Code) (texts : List String) : Except Problem α :=
  .error (.withTexts code texts)

/-- Fails if tokens are left over. -/
def noMore (tokens : List Token) : Except Problem Unit :=
  if tokens.isEmpty then .ok () else failWith .trailing [joinTokens tokens]

/-- The immediate value of a number with the given text. -/
def numberImmediate (text : String) : Except Problem Immediate :=
  if Integer.isNumber text then .ok (.number text) else failWith .literalInvalid [text]

/-- The immediate value that a single token stands for. -/
def tokenImmediate (tok : Token) : Except Problem Immediate :=
  match tok.kind with
  | .number => numberImmediate tok.text
  | .char => .ok (.char tok.text)
  | .expr => .ok (.expr tok.text)
  | .ident =>
      if Machine.isRegister tok.text then failWith .immediateExpected [tok.text]
      else if tok.isName then .ok (.name tok.text)
      else failWith .nameInvalid [tok.text]
  | _ => failWith .literalInvalid [tok.print]

/-- Reads an immediate value: a number, which a minus sign may precede, a character, an
expression or a name. -/
def readImmediate : List Token → Except Problem (Reading Immediate)
  | [] => failWith .expected ["value", ""]
  | [tok] => do return (← tokenImmediate tok, [])
  | tok :: next :: rest =>
      if tok.is "-" && next.kind == .number then do
        return (← numberImmediate ("-" ++ next.text), rest)
      else do
        return (← tokenImmediate tok, next :: rest)

/-- Reads a register. -/
def readRegister : List Token → Except Problem (Reading Machine.Register)
  | [] => failWith .expected ["register", ""]
  | tok :: rest =>
      if tok.isRegister then .ok (tok.text, rest) else failWith .registerExpected [tok.print]

/-- Reads a register or an immediate value. -/
def readOperand (tokens : List Token) : Except Problem (Reading Operand) :=
  match tokens with
  | tok :: rest =>
      if tok.isRegister then .ok (.register tok.text, rest)
      else do
        let (value, rest) ← readImmediate tokens
        return (.immediate value, rest)
  | [] => failWith .expected ["value", ""]

/-- Reads an immediate value and a closing bracket, after an opening one. -/
def readBracketed (bracket : Token) (tokens : List Token) : Except Problem (Reading Immediate) := do
  let (value, rest) ← readImmediate tokens
  let seen := joinTokens (bracket :: tokens.take (tokens.length - rest.length))
  match rest with
  | tok :: rest => if tok.is "]" then return (value, rest) else failWith .bracketUnterminated [seen]
  | [] => failWith .bracketUnterminated [seen]

/-- Reads an offset in brackets, which is zero if there are none. -/
def readIndex (tokens : List Token) : Except Problem (Reading Immediate) :=
  match tokens with
  | tok :: rest => if tok.is "[" then readBracketed tok rest else .ok (.number "0", tokens)
  | [] => .ok (.number "0", [])

/-- Reads a size in brackets. -/
def readSize (tokens : List Token) : Except Problem (Reading Immediate) :=
  match tokens with
  | tok :: rest =>
      if tok.is "[" then readBracketed tok rest else failWith .expected ["[", joinTokens tokens]
  | [] => failWith .expected ["[", ""]

/-- Reads a cast in parentheses, if there is one. -/
def readCast (tokens : List Token) : Except Problem (Reading (Option Machine.Cast)) :=
  match tokens with
  | [] => .ok (none, [])
  | first :: rest =>
      if first.is "(" then
        match rest with
        | name :: last :: rest =>
            if last.is ")" then
              match if name.kind == .ident then Machine.Cast.ofName? name.text else none with
              | some cast => .ok (some cast, rest)
              | none => failWith .castUnknown [name.print]
            else failWith .expected [")", joinTokens tokens]
        | _ => failWith .expected [")", joinTokens tokens]
      else .ok (none, tokens)

/-- The tokens between the operators `separator`: always one part more than there are of them. -/
def splitAtOp (separator : String) : List Token → List (List Token)
  | [] => [[]]
  | tok :: rest =>
      if tok.isOp separator then [] :: splitAtOp separator rest
      else
        match splitAtOp separator rest with
        | part :: parts => (tok :: part) :: parts
        | [] => [[tok]]

end Shorthand
