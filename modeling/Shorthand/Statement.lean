import Shorthand.Machine.Cast
import Shorthand.Machine.Comparator
import Shorthand.Machine.Operator
import Shorthand.Machine.Register
import Shorthand.Token

/-!
# Statements

What a line of source says, once it is parsed.  A statement either opens or closes a block or
a construct, or stands for a single instruction, or declares something.

Immediate values keep the text that they were written with: numbers, characters and names are
handed on to the assembler, and only expressions are evaluated, when code is generated.
-/

namespace Shorthand

open Machine

/-! ## Operands -/

/-- A value known when the program is assembled. -/
inductive Immediate where
  /-- A number, possibly with a minus sign. -/
  | number (text : String)
  /-- A character between quotes. -/
  | char (text : String)
  /-- An expression between `$(` and `)`. -/
  | expr (text : String)
  /-- A constant or a label. -/
  | name (text : String)
deriving DecidableEq

namespace Immediate

/-- The text as written. -/
def text : Immediate → String
  | number text => text
  | char text => text
  | expr text => text
  | name text => text

/-- The category of the token that the value was written as. -/
def kind : Immediate → TokenKind
  | number _ => .number
  | char _ => .char
  | expr _ => .expr
  | name _ => .ident

end Immediate

/-- The second operand of an operation. -/
inductive Operand where
  | register (name : Register)
  | immediate (value : Immediate)
deriving DecidableEq

/-- Where a store goes. -/
inductive Target where
  /-- To a variable, by its address. -/
  | variable (name : String)
  /-- To an offset from the address in a register. -/
  | memory (base : Register) (offset : Immediate)
deriving DecidableEq

/-! ## Conditions -/

/-- A condition on registers. -/
inductive Condition where
  | compare (a : Register) (cmp : Comparator) (b : Register)
  | both (lhs rhs : Condition)
  | either (lhs rhs : Condition)
deriving DecidableEq

/-! ## Declarations -/

/-- The unit of storage that a variable is made of. -/
inductive Width where
  | word
  | byte
deriving DecidableEq

/-- The number of bytes of a unit. -/
def Width.bytes : Width → Nat
  | word => 4
  | byte => 1

/-- A declaration. -/
inductive Declaration where
  /-- One value for each initial value, or a single one without. -/
  | scalar (width : Width) (name : String) (init : List Immediate)
  /-- As many values as the size says. -/
  | array (width : Width) (name : String) (size : Immediate)
  /-- A text, by its literal. -/
  | string (name : String) (literal : String)
  /-- As many bytes as the size says. -/
  | buffer (name : String) (size : Immediate)
  /-- A constant, by the text of its value. -/
  | const (name : String) (value : String)
deriving DecidableEq

/-! ## Statements -/

/-- The top level blocks. -/
inductive BlockHead where
  /-- Constants and settings. -/
  | compile
  /-- The program proper. -/
  | main
  /-- A subroutine. -/
  | function (name : String)
deriving DecidableEq

/-- A statement. -/
inductive Statement where
  /-- Opens a block; a colon may be missing. -/
  | block (head : BlockHead) (colon : Bool)
  /-- Opens a conditional. -/
  | branch (cond : Condition)
  /-- Turns to the alternative of a conditional. -/
  | otherwise
  /-- Opens a loop, an endless one without a condition. -/
  | loop (cond? : Option Condition)
  /-- Closes the innermost construct or block. -/
  | close
  /-- Calls a subroutine. -/
  | call (name : String)
  /-- A comment that goes into the output. -/
  | comment (text : String)
  /-- `rX = rY`. -/
  | move (dst src : Register)
  /-- `rX = &NAME`. -/
  | address (dst : Register) (name : String)
  /-- `rX = (cast) &rY[OFFSET]`. -/
  | load (dst : Register) (cast : Cast) (base : Register) (offset : Immediate)
  /-- `rX = (cast) NAME`, or `rX = NAME` for a constant or a variable. -/
  | loadName (dst : Register) (name : String) (cast? : Option Cast)
  /-- `rX = VALUE`. -/
  | loadImmediate (dst : Register) (value : Immediate)
  /-- `rX = rY OP Z`. -/
  | operate (dst src : Register) (op : Operator) (rhs : Operand)
  /-- `NAME = (cast) rX` or `*rX[OFFSET] = (cast) rY`. -/
  | store (cast : Cast) (src : Register) (target : Target)
  /-- Declares a variable or a constant. -/
  | declare (declaration : Declaration)
deriving DecidableEq

/-- The words that cannot be used as names. -/
def keywords : List String :=
  ["compile", "main", "func", "if", "else", "while", "end", "call", "int", "byte", "string",
   "var", "const", "true"]

/-- Whether an identifier can name a variable, a constant or a function. -/
def isNameText (text : String) : Bool := !isRegister text && !keywords.contains text

namespace Token

/-- Whether the token is a register. -/
def isRegister (tok : Token) : Bool := tok.kind == .ident && Machine.isRegister tok.text

/-- Whether the token can name a variable, a constant or a function. -/
def isName (tok : Token) : Bool := tok.kind == .ident && isNameText tok.text

end Token

end Shorthand
