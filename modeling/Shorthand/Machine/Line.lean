/-!
# Instruction lines

The fixed layout of a line of assembly: a margin, the mnemonic in a column of its own, and the
operands.  The assembler reads nothing into blanks at the end of a line, so there are none.
-/

namespace Shorthand.Machine

/-- The margin of every line that is no label. -/
def margin : String := "    "

/-- The width of the column of mnemonics. -/
def mnemonicWidth : Nat := 16

/-- The text filled up with blanks to a width counted in characters. -/
def padRight (width : Nat) (text : String) : String :=
  text ++ String.ofList (List.replicate (width - text.length) ' ')

/-- The text without the blanks at its end. -/
def dropTrailingBlanks (text : String) : String :=
  String.ofList (text.toList.reverse.dropWhile (· == ' ')).reverse

/-- The line of an instruction or a directive. -/
def formatLine (mnemonic : String) (operands : List String) : String :=
  dropTrailingBlanks (margin ++ padRight mnemonicWidth mnemonic ++ ", ".intercalate operands)

/-- A memory operand: an offset from the address in a base register. -/
def memoryOperand (offset base : String) : String := offset ++ "(" ++ base ++ ")"

end Shorthand.Machine
