import Shorthand.Listing.Leaf
import Shorthand.Statement

/-!
# Guards

The code that tests a condition.  Every part of a condition has a name, and two labels made
from it: its code branches to the label for false if the part is false, and otherwise branches
to the label for true or comes to its end.  Whoever uses the code puts the label for true right
after it.

A comparison is one branch on its complement.  Of two joined parts the first is tested, and the
second only if the first leaves the condition open; each part gets a name of its own, and its
labels lead on to those of the whole.
-/

namespace Shorthand

/-- The label where a condition is true. -/
def trueLabel (name : String) : String := name ++ "_t"

/-- The label where a condition is false. -/
def falseLabel (name : String) : String := name ++ "_f"

namespace Guard

/-- The name of a part of a condition, by the number of the part. -/
def partName (base : String) (number : Nat) : String := base ++ "_c" ++ toString number

/-- The code of two parts of which both have to be true. -/
def joinBoth (name left right : String) (lhs rhs : List Leaf) : List Leaf :=
  lhs ++ [.label (trueLabel left)] ++ rhs ++
    [.label (trueLabel right), .jump (trueLabel name), .label (falseLabel left),
     .label (falseLabel right), .jump (falseLabel name)]

/-- The code of two parts of which one has to be true. -/
def joinEither (name left right : String) (lhs rhs : List Leaf) : List Leaf :=
  lhs ++ [.label (trueLabel left), .jump (trueLabel name), .label (falseLabel left)] ++ rhs ++
    [.label (trueLabel right), .jump (trueLabel name), .label (falseLabel right),
     .jump (falseLabel name)]

/-- The code of a part with a name, and how many names have been given to parts after it.  The
names of both parts of a join are given before those of their own parts. -/
def build (base : String) : Condition → String → Nat → List Leaf × Nat
  | .compare a cmp b, name, given =>
      ([.jumpIf cmp.branchUnless a b (falseLabel name)], given)
  | .both lhs rhs, name, given =>
      let left := partName base (given + 1)
      let right := partName base (given + 2)
      let (leftCode, given) := build base lhs left (given + 2)
      let (rightCode, given) := build base rhs right given
      (joinBoth name left right leftCode rightCode, given)
  | .either lhs rhs, name, given =>
      let left := partName base (given + 1)
      let right := partName base (given + 2)
      let (leftCode, given) := build base lhs left (given + 2)
      let (rightCode, given) := build base rhs right given
      (joinEither name left right leftCode rightCode, given)

end Guard

/-- The code that tests a condition with a name. -/
def Condition.guard (cond : Condition) (name : String) : List Leaf :=
  (Guard.build name cond name 0).1

end Shorthand
