import Shorthand.Lowering.State

/-!
# Operands and instructions

An operand is written as it stands, unless it is an expression, which is evaluated.  Every simple
statement becomes one instruction.
-/

namespace Shorthand.Lowering

open Machine

variable [Interpreter]

/-! ## Expressions -/

/-- The text without a beginning, if it has it. -/
def dropStart (start text : List Char) : List Char :=
  if start.isPrefixOf text then text.drop start.length else text

/-- The text without an ending, if it has it. -/
def dropEnd (ending text : List Char) : List Char :=
  if ending.isSuffixOf text then text.take (text.length - ending.length) else text

/-- The inside of an expression, without its delimiters. -/
def expressionBody (text : String) : String :=
  String.ofList (dropEnd [')'] (dropStart ['$', '('] text.toList))

/-- The value of an expression, with the state after what it prints. -/
def State.evaluate (state : State) (text : String) : Option Int × State :=
  let evaluation := state.symbols.evaluate text
  let printed := evaluation.printed.map Event.printed
  (evaluation.value?, { state with events := printed.reverse ++ state.events })

/-- The value of an expression between its delimiters, as a text. -/
def expression (state : State) (text : String) : Except Stop (String × State) :=
  let body := expressionBody text
  match state.evaluate body with
  | (some value, state) => .ok (toString value, state)
  | (none, state) => state.refuse (.withTexts .expressionInvalid [body])

/-- The text of an operand. -/
def immediate (state : State) : Immediate → Except Stop (String × State)
  | .expr text => expression state text
  | .number text | .char text | .name text => .ok (text, state)

/-- The texts of operands. -/
def immediates (state : State) : List Immediate → Except Stop (List String × State)
  | [] => .ok ([], state)
  | imm :: imms => do
      let (text, state) ← immediate state imm
      let (texts, state) ← immediates state imms
      return (text :: texts, state)

/-! ## Sizes -/

/-- The largest size in bytes. -/
def sizeLimit : Int := 2147483647

/-- The expression that gives a size, if it is written as one: a number and a name are
expressions too. -/
def sizeExpression? : Immediate → Option String
  | .number text | .name text => some text
  | .expr text => some (expressionBody text)
  | .char _ => none

/-- The number of elements of so many bytes, which is positive and not too large. -/
def sizeOf (state : State) (imm : Immediate) (unit : Int) : Except Stop (Int × State) :=
  let wrong : Problem := .withTexts .sizeInvalid [imm.text]
  match sizeExpression? imm with
  | none => state.refuse wrong
  | some text =>
      match state.evaluate text with
      | (some count, state) =>
          if count ≤ 0 || sizeLimit / unit < count then state.refuse wrong
          else .ok (count, state)
      | (none, state) => state.refuse wrong

/-! ## Instructions -/

/-- The words for a statement that stands where it must not. -/
def statementWord : Statement → String
  | .branch _ => "if"
  | .otherwise => "else"
  | .loop _ => "while"
  | .close => "end"
  | .call name => "call " ++ name
  | .move dst _ => dst
  | .address dst _ => dst
  | .load dst _ _ _ => dst
  | .loadName dst _ _ => dst
  | .loadImmediate dst _ => dst
  | .operate dst _ _ _ => dst
  | .store _ _ (.variable name) => name
  | .store _ _ (.memory base _) => "*" ++ base
  | .block _ _ | .comment _ | .declare _ => "?"

/-- The instruction of an operation. -/
def operation (state : State) (dst src : Register) (op : Operator) :
    Operand → Except Stop (Leaf × State)
  | .register name =>
      match op.registerForm? with
      | some mnemonic => .ok (.instr mnemonic [dst, src, name], state)
      | none => state.refuse (.withTexts .highRegister [op.symbol])
  | .immediate imm =>
      match op.immediateForm? with
      | some mnemonic => do
          let (value, state) ← immediate state imm
          return (.instr mnemonic [dst, src, value], state)
      | none => state.refuse (.withTexts .divideImmediate [imm.text])

/-- The instruction that loads what a name stands for: a constant is its own value, and all else
is in memory. -/
def loadNamed (state : State) (dst : Register) (name : String) (cast? : Option Cast) : Leaf :=
  if cast?.isNone && (state.symbols.constant? name).isSome then .instr "movi" [dst, name]
  else .instr (cast?.getD .word).load [dst, memoryOperand name Register.zero]

/-- The instruction of a simple statement. -/
def instruction (state : State) : Statement → Except Stop (Leaf × State)
  | .call name => .ok (.instr "call" [name], state)
  | .move dst src => .ok (.instr "mov" [dst, src], state)
  | .address dst name => .ok (.instr "movia" [dst, name], state)
  | .load dst cast base offset => do
      let (offset, state) ← immediate state offset
      return (.instr cast.load [dst, memoryOperand offset base], state)
  | .loadName dst name cast? => .ok (loadNamed state dst name cast?, state)
  | .loadImmediate dst value => do
      let (value, state) ← immediate state value
      return (.instr "movi" [dst, value], state)
  | .operate dst src op rhs => operation state dst src op rhs
  | .store cast src (.variable name) =>
      .ok (.instr cast.store [src, memoryOperand name Register.zero], state)
  | .store cast src (.memory base offset) => do
      let (offset, state) ← immediate state offset
      return (.instr cast.store [src, memoryOperand offset base], state)
  | .block _ _ | .branch _ | .otherwise | .loop _ | .close | .comment _ | .declare _ =>
      state.checked (.error .unhandled)

end Shorthand.Lowering
