import Shorthand.Text.Integer

/-!
# Compile-time expressions

An expression is what a small program assigns to a result: the text is written after `rc=`, and the
program is run.  So a text may hold more than an expression, such as further statements after a
semicolon.  The value is the result, if it is an integer of 64 bits.  What the program prints stays
printed, whether it succeeds or not.

The language of these programs is not that of the compiler, and what runs them is not a part of it.
All that the compiler asks of an `Interpreter` is that it runs the text of a program in which some
names stand for integers, and tells what was printed and which globals are integers then.
-/

namespace Shorthand

/-- What running a program gives. -/
structure Execution where
  /-- The lines that were printed. -/
  printed : List String
  /-- The globals that are integers, with their values; none if the program failed. -/
  integer? : String → Option Int

/-- What runs the programs of expressions.  Lowering a program and compiling it depend on the
interpreter, and so does what is proved of them; it is inferred, and not an argument everywhere. -/
class Interpreter where
  /-- Runs a program in which the known names stand for integers. -/
  execute (known? : String → Option Int) (program : String) : Execution

namespace Expression

/-- The name of the result. -/
def resultName : String := "rc"

/-- The text of the program that computes an expression. -/
def programText (text : String) : String := resultName ++ "=" ++ text ++ "\n"

/-- An integer, if it has no more than 64 bits. -/
def word? (n : Int) : Option Int := if Text.Integer.fitsSigned n then some n else none

/-- What an evaluation gives. -/
structure Evaluation where
  /-- The lines that were printed. -/
  printed : List String
  /-- The value, unless the evaluation failed. -/
  value? : Option Int

/-- Evaluates an expression in which the known names stand for integers. -/
def evaluate [Interpreter] (known? : String → Option Int) (text : String) : Evaluation :=
  let execution := Interpreter.execute known? (programText text)
  ⟨execution.printed, (execution.integer? resultName).bind word?⟩

end Expression

end Shorthand
