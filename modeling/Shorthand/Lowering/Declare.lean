import Shorthand.Lowering.Operand
import Shorthand.Text.Quoted
import Shorthand.Token.Lexer

/-!
# Constants and variables

A constant whose text is a single expression stands for the value of the expression.  A variable
is entered into the symbols, and its storage goes to the words or to the bytes of the listing.
-/

namespace Shorthand.Lowering

variable [Interpreter]

/-! ## Constants -/

/-- Whether a text is a single expression: its only token is one. -/
def isSingleExpression (text : String) : Bool :=
  match (lex text).tokens with
  | [token] => token.kind == .expr
  | _ => false

/-- Defines a constant. -/
def defineConstant (state : State) (name value : String) : Except Stop State := do
  let (value, state) ←
    if isSingleExpression value then expression state value else .ok (value, state)
  let state ← state.addSetup [.instr ".equ" [name, value]]
  return { state with symbols := state.symbols.setConstant name value }

/-- Defines constants in order. -/
def defineConstants (state : State) : List (String × String) → Except Stop State
  | [] => .ok state
  | (name, value) :: rest => do
      let state ← defineConstant state name value
      defineConstants state rest

/-! ## Variables -/

/-- The number of bytes of a text: its own bytes and a zero, or only the zero if its literal
means no text. -/
def stringSize (literal : String) : Int :=
  match Text.Quoted.bytes? literal with
  | some bytes => bytes.length + 1
  | none => 1

/-- Where storage in a unit is placed. -/
def alignOf : Width → Align
  | .word => .word
  | .byte => .byte

/-- The directive for values of a width. -/
def valueDirective : Width → String
  | .word => ".word"
  | .byte => ".byte"

/-- The storage of a scalar: room for one value, or its initial values. -/
def scalarStorage (state : State) (width : Width) (name : String) (init : List Immediate) :
    Except Stop (Variable × Storage × State) := do
  let align := alignOf width
  if init.isEmpty then
    return (⟨name, align, ".skip", [toString width.bytes]⟩, ⟨width.bytes, align, []⟩, state)
  else
    let (texts, state) ← immediates state init
    return (⟨name, align, valueDirective width, texts⟩,
      ⟨width.bytes * texts.length, align, texts⟩, state)

/-- The storage of as many values as a size says. -/
def arrayStorage (state : State) (width : Width) (name : String) (size : Immediate) :
    Except Stop (Variable × Storage × State) := do
  let (count, state) ← sizeOf state size width.bytes
  let bytes := count * width.bytes
  return (⟨name, alignOf width, ".skip", [toString bytes]⟩, ⟨bytes, alignOf width, []⟩, state)

/-- The storage of a text. -/
def stringStorage (name literal : String) : Variable × Storage :=
  (⟨name, .byte, ".asciz", [literal]⟩, ⟨stringSize literal, .byte, [literal]⟩)

/-- Enters a variable. -/
def enter (state : State) (v : Variable) (storage : Storage) : Except Stop State := do
  let symbols ← state.allowed (state.symbols.declare v.name storage)
  let state := { state with symbols := symbols }
  if v.align == .word then return { state with words := v :: state.words }
  else return { state with bytes := v :: state.bytes }

/-- Lowers a declaration.  A constant belongs into the block of constants. -/
def declare (state : State) : Declaration → Except Stop State
  | .const name value =>
      match state.scope with
      | .compile => defineConstant state name value
      | .nothing | .body _ => state.refuse (.withTexts .constOutsideCompile [name])
  | .scalar width name init => do
      let (v, storage, state) ← scalarStorage state width name init
      enter state v storage
  | .array width name size => do
      let (v, storage, state) ← arrayStorage state width name size
      enter state v storage
  | .buffer name size => do
      let (v, storage, state) ← arrayStorage state .byte name size
      enter state v storage
  | .string name literal =>
      let (v, storage) := stringStorage name literal
      enter state v storage

end Shorthand.Lowering
