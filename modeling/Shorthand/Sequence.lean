/-!
# Sequences that hand over their values

A sequence is given a consumer and hands it its values one by one.  After each value the
consumer says whether it wants more; once it does not, the sequence ends at once and never calls
it again.  So a long listing can be looked at from its start without being made whole.

The result of a run is the state of the consumer, and whether the consumer still wanted more at
the end.
-/

namespace Shorthand

/-- Takes a value, and says whether it wants more. -/
abbrev Consumer (σ α : Type) := σ → α → σ × Bool

/-- Values that are handed to a consumer, whatever its state is. -/
def Sequence (α : Type) : Type 1 := (σ : Type) → Consumer σ α → σ → σ × Bool

namespace Sequence

variable {α ε σ : Type}

/-- Hands over the values of a list. -/
def feed (visit : Consumer σ α) : σ → List α → σ × Bool
  | state, [] => (state, true)
  | state, value :: values =>
      match visit state value with
      | (state, true) => feed visit state values
      | (state, false) => (state, false)

/-- The values of a list. -/
def of (values : List α) : Sequence α := fun _ visit state => feed visit state values

/-- The values of all sequences, one after the other. -/
def concat : List (Sequence α) → Sequence α
  | [] => fun _ _ state => (state, true)
  | first :: rest => fun σ visit state =>
      match first σ visit state with
      | (state, true) => concat rest σ visit state
      | (state, false) => (state, false)

/-- The values of the sequences that elements stand for, one after the other. -/
def each (elements : List ε) (sequence : ε → Sequence α) : Sequence α := fun σ visit state =>
  feed (fun state element => sequence element σ visit state) state elements

/-- A consumer that keeps values, the last one first, until it has kept enough.  Its state has
the number of values that it still wants, if there is a limit. -/
def keep : Consumer (List α × Option Nat) α
  | (kept, none), value => ((value :: kept, none), true)
  | (kept, some wanted), value => ((value :: kept, some (wanted - 1)), 1 < wanted)

/-- The first values, as many as the limit says, or all of them without one. -/
def take (limit? : Option Nat) (sequence : Sequence α) : List α :=
  match limit? with
  | some 0 => []
  | limit? => (sequence _ keep ([], limit?)).1.1.reverse

/-- All values. -/
def toList (sequence : Sequence α) : List α := sequence.take none

end Sequence

end Shorthand
