/-!
# Comparators

The six comparisons of two registers and the branch instructions that test them.  A condition
is compiled by branching away when it fails, so every comparator has a complement.
-/

namespace Shorthand.Machine

/-- A comparison of two registers. -/
inductive Comparator where
  | lt
  | gt
  | le
  | ge
  | eq
  | ne
deriving DecidableEq, Inhabited

namespace Comparator

/-- The comparators by number. -/
def all : List Comparator := [lt, gt, le, ge, eq, ne]

/-- The comparator as it is written. -/
def symbol : Comparator → String
  | lt => "<"
  | gt => ">"
  | le => "<="
  | ge => ">="
  | eq => "=="
  | ne => "!="

/-- The comparator that a symbol stands for. -/
def ofSymbol? (text : String) : Option Comparator := all.find? fun cmp => cmp.symbol == text

/-- Whether the comparison holds of two values. -/
def holds : Comparator → Int → Int → Bool
  | lt, a, b => a < b
  | gt, a, b => b < a
  | le, a, b => a ≤ b
  | ge, a, b => b ≤ a
  | eq, a, b => a == b
  | ne, a, b => a != b

/-- The comparator that holds exactly when this one does not. -/
def complement : Comparator → Comparator
  | lt => ge
  | gt => le
  | le => gt
  | ge => lt
  | eq => ne
  | ne => eq

/-- The branch that is taken when the comparison holds. -/
def branch : Comparator → String
  | lt => "blt"
  | gt => "bgt"
  | le => "ble"
  | ge => "bge"
  | eq => "beq"
  | ne => "bne"

/-- The branch that is taken when the comparison fails. -/
def branchUnless (cmp : Comparator) : String := cmp.complement.branch

@[simp] theorem holds_complement (cmp : Comparator) (a b : Int) :
    cmp.complement.holds a b = !cmp.holds a b := by
  cases cmp <;> simp [complement, holds, bne, ← decide_not]

/-- The number of the comparator. -/
def number (cmp : Comparator) : Nat := all.idxOf cmp

/-- The comparator with a number. -/
def ofNumber? (n : Int) : Option Comparator := if n < 0 then none else all[n.toNat]?

/-- How the comparator with a number is written.  A number that belongs to none is shown. -/
def describe (n : Int) : String :=
  match ofNumber? n with
  | some cmp => cmp.symbol
  | none => s!"Comparator({n})"

end Comparator

end Shorthand.Machine
