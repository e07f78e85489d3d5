import Shorthand.Statement.Condition
import Shorthand.Statement.Declaration

/-!
# Families of statements

A line is taken apart from its front.  A `Candidate` is what has been looked at so far, one
token more each time, and each `Handler` knows a family of statements by the candidates that
start one.  The tokens that belong to the statement are the `Segment` up to its terminator or
a comment, and the handler reads the statement off them.
-/

namespace Shorthand

open Machine

/-! ## Candidates and segments -/

/-- The tokens at the front of what is left of a line. -/
structure Candidate where
  /-- The tokens before the last one, the nearest first. -/
  before : List Token
  last : Token

namespace Candidate

/-- Whether there is only one token. -/
def single (c : Candidate) : Bool := c.before.isEmpty

/-- The tokens in order. -/
def tokens (c : Candidate) : List Token := c.before.reverse ++ [c.last]

/-- Whether the candidate is the one word given. -/
def isWord (c : Candidate) (word : String) : Bool :=
  c.single && c.last.kind == .ident && c.last.text == word

end Candidate

/-- The tokens of one statement, apart from the candidate. -/
structure Segment where
  body : List Token
  /-- What follows the statement and its terminator. -/
  rest : List Token
  /-- The terminator, if the statement has one. -/
  terminator? : Option String

/-- Whether a statement ends at the token: a comment, or a terminator. -/
def endsStatement (terminators : List String) (tok : Token) : Bool :=
  tok.kind == .comment || (tok.kind == .op && terminators.contains tok.text)

/-- The tokens up to the first terminator, which belongs to the statement, or up to a comment,
which does not. -/
def Segment.upTo (terminators : List String) (tokens : List Token) : Segment :=
  let body := tokens.takeWhile fun tok => !endsStatement terminators tok
  match tokens.dropWhile fun tok => !endsStatement terminators tok with
  | [] => ⟨body, [], none⟩
  | tok :: rest =>
      if tok.kind == .comment then ⟨body, tok :: rest, none⟩ else ⟨body, rest, some tok.text⟩

theorem Segment.length_rest_upTo_le (terminators : List String) (tokens : List Token) :
    (Segment.upTo terminators tokens).rest.length ≤ tokens.length := by
  have suffix := (List.dropWhile_suffix (l := tokens)
    (fun tok => !endsStatement terminators tok)).length_le
  unfold Segment.upTo
  dsimp only
  split
  · simp
  · rename_i tok rest eq
    rw [eq] at suffix
    split
    · exact suffix
    · exact Nat.le_of_succ_le suffix

/-! ## Statements that start with a register -/

/-- Reads an operator and its operand after `rX = rY`, or nothing. -/
def readOperation (dst src : Register) (tokens : List Token) : Except Problem (Reading Statement) :=
  match tokens with
  | [] => .ok (.move dst src, [])
  | tok :: rest =>
      if tok.kind == .op then
        match Operator.ofSymbol? tok.text with
        | some op => do
            let (rhs, rest) ← readOperand rest
            return (.operate dst src op rhs, rest)
        | none => failWith .operatorUnknown [tok.text]
      else failWith .trailing [joinTokens tokens]

/-- Reads what follows `&` or `*` on the right of an assignment. -/
def readAddressed (dst : Register) (cast? : Option Cast) (value : List Token) :
    List Token → Except Problem (Reading Statement)
  | [] => failWith .expected ["name", joinTokens value]
  | tok :: rest =>
      if tok.isRegister then do
        let (offset, rest) ← readIndex rest
        return (.load dst (cast?.getD .word) tok.text offset, rest)
      else if cast?.isSome then failWith .registerExpected [tok.print]
      else if tok.isName then .ok (.address dst tok.text, rest)
      else failWith .nameInvalid [tok.print]

/-- Reads the right hand side of an assignment to a register. -/
def readAssigned (dst : Register) (value : List Token) : Except Problem (Reading Statement) :=
  match value with
  | [] => failWith .expected ["value", dst ++ " ="]
  | first :: rest =>
      if first.isRegister then readOperation dst first.text rest
      else do
        let (cast?, rest) ← readCast value
        match rest with
        | [] => failWith .expected ["value", joinTokens value]
        | tok :: more =>
            if tok.is "&" || tok.is "*" then readAddressed dst cast? value more
            else
              match cast? with
              | some cast =>
                  if tok.isName then return (.loadName dst tok.text (some cast), more)
                  else failWith .nameInvalid [tok.print]
              | none => do
                  let (imm, rest) ← readImmediate rest
                  match imm with
                  | .name name => return (.loadName dst name none, rest)
                  | _ => return (.loadImmediate dst imm, rest)

/-- The operator of a compound assignment, such as `+=`. -/
def compoundOperator? (text : String) : Option Operator :=
  match text.toList.reverse with
  | '=' :: symbol => Operator.ofSymbol? (String.ofList symbol.reverse)
  | _ => none

/-- Whether the token is an operator that ends in an equals sign. -/
def isCompound (tok : Token) : Bool :=
  tok.kind == .op && tok.text.toList.getLast? == some '='

/-- A register with one added to it or taken from it. -/
def stepStatement (dst : Register) (op : Operator) : Statement :=
  .operate dst dst op (.immediate (.number "1"))

/-- Reads an assignment of any form to the register `dst`; `first` is its operator. -/
def readUpdate (dst : Register) (first : Token) (rest : List Token) :
    Except Problem (Reading Statement) :=
  if first.is "=" then readAssigned dst rest
  else if first.is "++" then .ok (stepStatement dst .add, rest)
  else if first.is "--" then .ok (stepStatement dst .sub, rest)
  else if isCompound first then
    match compoundOperator? first.text with
    | some op => do
        let (rhs, rest) ← readOperand rest
        return (.operate dst dst op rhs, rest)
    | none => failWith .operatorUnknown [first.text]
  else failWith .operatorUnknown [first.print]

/-- Reads what follows the register that a statement starts with. -/
def readRegisterStatement (dst : Register) : List Token → Except Problem Statement
  | [] => failWith .expected ["=", dst]
  | first :: rest => do
      let (statement, rest) ← readUpdate dst first rest
      noMore rest
      return statement

/-! ## Stores -/

/-- Reads the source of a store, after the equals sign. -/
def readStored (target : Target) (tokens : List Token) : Except Problem Statement := do
  let (cast?, rest) ← readCast tokens
  let (src, rest) ← readRegister rest
  noMore rest
  return .store (cast?.getD .word) src target

/-- Reads a store to memory, after the token `mark` that starts it. -/
def readMemoryStore (mark : Token) (body : List Token) : Except Problem Statement := do
  let (base, rest) ← readRegister body
  let (offset, rest) ← readIndex rest
  match rest with
  | tok :: rest =>
      if tok.is "=" then readStored (.memory base offset) rest
      else failWith .expected ["=", mark.print ++ " " ++ base]
  | [] => failWith .expected ["=", mark.print ++ " " ++ base]

/-- Reads a store to a variable; `target` are the tokens before the equals sign. -/
def readVariableStore (target body : List Token) : Except Problem Statement :=
  match target with
  | [tok] =>
      if tok.isName then readStored (.variable tok.text) body
      else failWith .nameInvalid [joinTokens target]
  | _ => failWith .nameInvalid [joinTokens target]

/-! ## Blocks, loops and calls -/

/-- Reads a block without a name. -/
def readPlainBlock (head : BlockHead) (segment : Segment) : Except Problem Statement := do
  noMore segment.body
  return .block head (segment.terminator? == some ":")

/-- Reads a subroutine's head. -/
def readFunction (segment : Segment) : Except Problem Statement :=
  match segment.body with
  | [] => failWith .expected ["name", "func"]
  | tok :: rest =>
      if tok.isName then do
        noMore rest
        return .block (.function tok.text) (segment.terminator? == some ":")
      else failWith .nameInvalid [tok.print]

/-- Reads a loop's head. -/
def readLoop (body : List Token) : Except Problem Statement :=
  let conditional : Except Problem Statement := do return .loop (some (← readCondition body))
  match body with
  | tok :: rest =>
      if tok.kind == .ident && tok.text == "true" then do
        noMore rest
        return .loop none
      else conditional
  | [] => conditional

/-- Reads a call. -/
def readCall : List Token → Except Problem Statement
  | [] => failWith .expected ["name", "call"]
  | tok :: rest =>
      if tok.isName then do
        noMore rest
        return .call tok.text
      else failWith .nameInvalid [tok.print]

/-! ## Handlers -/

/-- The families of statements. -/
inductive Handler where
  | compile
  | main
  | branch
  | otherwise
  | loop
  | close
  | register
  | declaration
  | call
  | function
  | store
  | comment
deriving DecidableEq

namespace Handler

/-- All families, in the order in which they are asked. -/
def all : List Handler :=
  [compile, main, branch, otherwise, loop, close, register, declaration, call, function, store,
   comment]

/-- Whether the candidate starts a statement of the family. -/
def starts (c : Candidate) : Handler → Bool
  | compile => c.isWord "compile"
  | main => c.isWord "main"
  | branch => c.isWord "if"
  | otherwise => c.isWord "else"
  | loop => c.isWord "while"
  | close => c.isWord "end"
  | register => c.single && c.last.isRegister
  | declaration => declarationWords.any c.isWord
  | call => c.isWord "call"
  | function => c.isWord "func"
  | store =>
      (c.single && (c.last.is "*" || c.last.is "&")) ||
        (c.last.is "=" && !(c.before.length == 1 && c.before.all Token.isRegister))
  | comment => c.single && c.last.kind == .comment

/-- The tokens after the candidate that belong to a statement of the family. -/
def segment (tokens : List Token) : Handler → Segment
  | compile | main | function | branch | otherwise | loop | close => .upTo [";", ":"] tokens
  | register | declaration | call | store => .upTo [";"] tokens
  | comment => ⟨[], tokens, none⟩

/-- Reads a statement of the family. -/
def read (c : Candidate) (segment : Segment) : Handler → Except Problem Statement
  | compile => readPlainBlock .compile segment
  | main => readPlainBlock .main segment
  | branch => do return .branch (← readCondition segment.body)
  | otherwise => do
      noMore segment.body
      return .otherwise
  | loop => readLoop segment.body
  | close => do
      noMore segment.body
      return .close
  | register => readRegisterStatement c.last.text segment.body
  | declaration => do return .declare (← readDeclaration c.last.text segment.body)
  | call => readCall segment.body
  | function => readFunction segment
  | store =>
      if c.single then readMemoryStore c.last segment.body
      else readVariableStore c.before.reverse segment.body
  | comment => .ok (.comment c.last.text)

theorem length_rest_segment_le (h : Handler) (tokens : List Token) :
    (h.segment tokens).rest.length ≤ tokens.length := by
  cases h <;> first
    | exact Segment.length_rest_upTo_le _ _
    | exact Nat.le_refl _

end Handler

/-! ## Lines -/

/-- Goes on with a line: `done` are the statements before, the last one first, and `before` the
tokens that have started no statement yet, the nearest first.  Tokens that start no statement
before the line ends are passed over. -/
def dispatchOnto (handlers : List Handler) (done : List Statement) (before : List Token) :
    List Token → Except Problem (List Statement)
  | [] => .ok done.reverse
  | tok :: rest =>
      match handlers.find? (Handler.starts ⟨before, tok⟩) with
      | none => dispatchOnto handlers done (tok :: before) rest
      | some handler =>
          match handler.read ⟨before, tok⟩ (handler.segment rest) with
          | .error problem => .error problem
          | .ok statement =>
              dispatchOnto handlers (statement :: done) [] (handler.segment rest).rest
termination_by tokens => tokens.length
decreasing_by
  · simp
  · have := handler.length_rest_segment_le rest
    simp
    omega

/-- The statements of a line, by the families given. -/
def dispatch (handlers : List Handler) (tokens : List Token) : Except Problem (List Statement) :=
  dispatchOnto handlers [] [] tokens

end Shorthand
