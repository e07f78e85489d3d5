/-!
# Constructs

The structured parts of a body, and the stack on which those that are open wait for their end.
-/

namespace Shorthand

/-- A structured part of a body. -/
inductive Construct where
  | branch
  | alternative
  | loop
  /-- A loop without a condition. -/
  | endless
deriving DecidableEq, Inhabited

namespace Construct

/-- The construct by its number. -/
def ofNumber? : Int → Option Construct
  | 0 => some branch
  | 1 => some alternative
  | 2 => some loop
  | 3 => some endless
  | _ => none

/-- The words that open the construct. -/
def name : Construct → String
  | branch => "if"
  | alternative => "else"
  | loop => "while"
  | endless => "while true"

/-- The words for a number, which need not belong to a construct. -/
def describe (number : Int) : String := (ofNumber? number).elim "?" name

end Construct

/-- Entries of which only the last one can be looked at, the last one first. -/
structure Stack (α : Type) where
  entries : List α

namespace Stack

variable {α : Type}

/-- A stack without entries. -/
def empty : Stack α := ⟨[]⟩

/-- Puts an entry on top. -/
def push (stack : Stack α) (entry : α) : Stack α := ⟨entry :: stack.entries⟩

/-- The entry on top. -/
def peek? (stack : Stack α) : Option α := stack.entries.head?

/-- The entry on top, and the stack without it. -/
def pop? (stack : Stack α) : Option (α × Stack α) :=
  match stack.entries with
  | [] => none
  | entry :: entries => some (entry, ⟨entries⟩)

/-- Whether there are no entries. -/
def isEmpty (stack : Stack α) : Bool := stack.entries.isEmpty

end Stack

end Shorthand
