import Shorthand.Expression
import Shorthand.Expression.Evaluate
import Shorthand.Expression.Lexer
import Shorthand.Expression.Parser

/-!
# The interpreter

The text of a program is read, its names are resolved, and it is run.  The names that are known from
outside are those that neither a function nor the program itself binds.
-/

namespace Shorthand

namespace Expression

/-- More than the nesting of trees that are made from so many tokens. -/
def treeDepth (tokens : Nat) : Nat := 8 * tokens + 8

/-- More than the depth that an evaluation reaches: at most every function is running. -/
def runDepth (tokens : Nat) : Nat := treeDepth tokens * (tokens + 2)

/-- A program and the fuel that is enough to run it. -/
def program? (known? : String → Option Int) (text : String) : Option (Program × Nat) := do
  let toks ← tokens? text
  let stmts ← Parser.parse? toks
  let program ← resolve? (treeDepth toks.length) known? stmts
  return (program, runDepth toks.length)

/-- The integer that a value is. -/
def integerOf? : Value → Option Int
  | .int n => some n
  | _ => none

/-- Runs a program. -/
def execute (known? : String → Option Int) (text : String) : Execution :=
  match program? known? text with
  | none => ⟨[], fun _ => none⟩
  | some (program, fuel) =>
      let (finished?, machine) := (runProgram fuel program).run Machine.start
      let printed := machine.printed.reverse.map fun line => String.ofList (characters line)
      match finished? with
      | none => ⟨printed, fun _ => none⟩
      | some () => ⟨printed, fun name => (machine.globals.lookup name).bind integerOf?⟩

end Expression

/-- The interpreter with which expressions are evaluated when the compiler is run. -/
instance : Interpreter where
  execute := Expression.execute

end Shorthand
