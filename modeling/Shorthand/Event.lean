import Shorthand.Diagnostic

/-!
# Events of a compilation

What happens on the way to a listing or to a failure, in order: lines are read, expressions
print, and doubtful statements give warnings.
-/

namespace Shorthand

/-- Something that happens during a compilation. -/
inductive Event where
  /-- A line is read, as it stands in the source. -/
  | read (number : Nat) (line : String)
  /-- An expression prints a line. -/
  | printed (line : String)
  | warning (failure : Failure)
deriving DecidableEq

namespace Event

/-- The warning, if the event is one. -/
def warning? : Event → Option Failure
  | warning failure => some failure
  | read _ _ | printed _ => none

/-- The line of the log for the event; what is printed is not logged. -/
def logLine? : Event → Option String
  | read number line => some (toString number ++ ": " ++ line)
  | warning failure => some ("warning: " ++ failure.text)
  | printed _ => none

end Event

end Shorthand
