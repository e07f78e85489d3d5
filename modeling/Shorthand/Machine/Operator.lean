/-!
# Arithmetic operators

The operators of the shorthand language, and the instructions that they select.  Most have a
form for two registers and a form for a register and an immediate value.  Division has no
immediate form, and the operators on the high half of a word have no register form.
-/

namespace Shorthand.Machine

/-- An arithmetic or bitwise operator. -/
inductive Operator where
  | add
  | sub
  | mul
  | div
  | and
  | or
  | xor
  | shiftLeft
  | shiftRight
  | andHigh
  | orHigh
  | xorHigh
deriving DecidableEq, Inhabited

namespace Operator

/-- The operators by number. -/
def all : List Operator :=
  [add, sub, mul, div, and, or, xor, shiftLeft, shiftRight, andHigh, orHigh, xorHigh]

/-- The operator as it is written. -/
def symbol : Operator → String
  | add => "+"
  | sub => "-"
  | mul => "*"
  | div => "/"
  | and => "&"
  | or => "|"
  | xor => "^"
  | shiftLeft => "<<"
  | shiftRight => ">>"
  | andHigh => "?&"
  | orHigh => "?|"
  | xorHigh => "?^"

/-- The operator that a symbol stands for. -/
def ofSymbol? (text : String) : Option Operator := all.find? fun op => op.symbol == text

/-- The instruction for two registers, if there is one. -/
def registerForm? : Operator → Option String
  | add => some "add"
  | sub => some "sub"
  | mul => some "mul"
  | div => some "div"
  | and => some "and"
  | or => some "or"
  | xor => some "xor"
  | shiftLeft => some "sll"
  | shiftRight => some "srl"
  | andHigh => none
  | orHigh => none
  | xorHigh => none

/-- The instruction for a register and an immediate value, if there is one. -/
def immediateForm? : Operator → Option String
  | add => some "addi"
  | sub => some "subi"
  | mul => some "muli"
  | div => none
  | and => some "andi"
  | or => some "ori"
  | xor => some "xori"
  | shiftLeft => some "slli"
  | shiftRight => some "srli"
  | andHigh => some "andhi"
  | orHigh => some "orhi"
  | xorHigh => some "xorhi"

/-- The number of the operator. -/
def number (op : Operator) : Nat := all.idxOf op

/-- The operator with a number. -/
def ofNumber? (n : Int) : Option Operator := if n < 0 then none else all[n.toNat]?

/-- How the operator with a number is written.  A number that belongs to none is shown. -/
def describe (n : Int) : String :=
  match ofNumber? n with
  | some op => op.symbol
  | none => s!"Operator({n})"

end Operator

end Shorthand.Machine
