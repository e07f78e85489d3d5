import Shorthand.Expression.Operation

/-!
# Arguments of built in functions

A call gives values by position and by name.  Most built in functions take them by position
only; some give names to their parameters.
-/

namespace Shorthand.Expression

/-- The arguments of a call. -/
structure Args where
  positional : List Value
  named : List (String × Value)

namespace Args

/-- The arguments of a function that takes at least `least` and at most `most` of them, by
position only. -/
def between (args : Args) (least most : Nat) : Run (List Value) :=
  let count := args.positional.length
  if args.named.isEmpty && least ≤ count && count ≤ most then pure args.positional else failure

/-- The only argument. -/
def one (args : Args) : Run Value := do
  match ← args.between 1 1 with
  | [value] => return value
  | _ => failure

/-- No arguments. -/
def nothing (args : Args) : Run Unit := do
  let _ ← args.between 0 0

/-- The values of parameters with names, of which the first `required` have to be given.  No
parameter is given twice, and no other name is given. -/
def fill (args : Args) (names : List String) (required : Nat) : Run (List (Option Value)) := do
  let count := args.positional.length
  let given := args.named.map Prod.fst
  Run.require (count ≤ names.length)
  Run.require (given.all (names.drop count).contains)
  Run.require (!Scope.repeats given)
  let values :=
    args.positional.map some ++ (names.drop count).map fun name => args.named.lookup name
  Run.require ((values.take required).all Option.isSome)
  return values

end Args

/-- The function that a call of a sorting or searching function may give, which has to be one. -/
def keyOf : Option Value → Run (Option Value)
  | none => pure none
  | some f =>
      match f with
      | .closure .. | .builtin _ | .method .. => pure (some f)
      | _ => failure

end Shorthand.Expression
