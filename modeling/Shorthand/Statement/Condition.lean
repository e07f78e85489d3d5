import Shorthand.Statement.Operand

/-!
# Reading conditions

A condition is a sequence of comparisons joined by `&&` and `||`.  There is no grouping; `&&`
binds tighter than `||`, and both associate to the left.
-/

namespace Shorthand

open Machine

/-- Reads a single comparison, which has to take all the tokens. -/
def readComparison (tokens : List Token) : Except Problem Condition :=
  match tokens with
  | [] => failWith .expected ["condition", ""]
  | _ => do
      let (a, afterFirst) ← readRegister tokens
      match afterFirst with
      | [] => failWith .expected ["comparison", joinTokens tokens]
      | tok :: rest =>
          match if tok.kind == .op then Comparator.ofSymbol? tok.text else none with
          | none => failWith .operatorUnknown [tok.print]
          | some cmp => do
              let (b, rest) ← readRegister rest
              noMore rest
              return .compare a cmp b

/-- Conditions joined from the left. -/
def joinLeft (join : Condition → Condition → Condition) :
    List Condition → Except Problem Condition
  | [] => failWith .expected ["condition", ""]
  | first :: rest => .ok (rest.foldl join first)

/-- Reads comparisons joined by `&&`. -/
def readConjunction (tokens : List Token) : Except Problem Condition := do
  joinLeft .both (← (splitAtOp "&&" tokens).mapM readComparison)

/-- Reads a condition, which has to take all the tokens. -/
def readCondition (tokens : List Token) : Except Problem Condition :=
  match tokens with
  | [] => failWith .expected ["condition", ""]
  | _ => do joinLeft .either (← (splitAtOp "||" tokens).mapM readConjunction)

end Shorthand
