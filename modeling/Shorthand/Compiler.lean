import Shorthand.Lowering

/-!
# Compilation

A compiler has settings that outlive a compilation: the forms of statements that it knows, and
constants that every program starts with.  A compilation parses the whole source first and
lowers it afterwards.  Its report tells what came of it, and what happened on the way.
-/

namespace Shorthand

variable [Interpreter]

/-- The settings of a compiler. -/
structure Compiler where
  /-- The forms of statements, in the order in which they are tried. -/
  handlers : List Handler
  /-- The constants that every program starts with, in the order of their definition. -/
  predefined : List (String × String)

/-- Why there is no listing. -/
inductive Rejection where
  | failure (failure : Failure)
  | fault (fault : Fault)
deriving DecidableEq

/-- What came of a compilation. -/
structure Report where
  outcome : Except Rejection Listing
  /-- What happened, in order. -/
  events : List Event

namespace Report

/-- The warnings, in order. -/
def warnings (report : Report) : List Failure := report.events.filterMap Event.warning?

/-- The lines of the log, in order. -/
def log (report : Report) : List String := report.events.filterMap Event.logLine?

end Report

namespace Compiler

/-- A compiler with all handlers and no constants. -/
def standard : Compiler := ⟨Handler.all, []⟩

/-- The compiler with one more constant that every program starts with. -/
def predefine (compiler : Compiler) (name value : String) : Compiler :=
  { compiler with predefined := compiler.predefined ++ [(name, value)] }

/-- The events of reading the first lines of a source. -/
def readEvents (source : Source) (seen : Nat) : List Event :=
  ((source.lines.take seen).zipIdx 1).map fun (line, number) => .read number line

/-- A lowering that was interrupted, as a reason why there is no listing. -/
def rejection (interrupted : Lowering.Interrupted) : Rejection :=
  match interrupted.halt with
  | .problem problem => .failure ⟨problem, interrupted.place?⟩
  | .fault fault => .fault fault

/-- Compiles a source. -/
def compile (compiler : Compiler) (source : Source) : Report :=
  let parsed := parse compiler.handlers source
  let reading := readEvents source parsed.seen
  match parsed.failure? with
  | some failure => ⟨.error (.failure failure), reading⟩
  | none =>
      match Lowering.lower compiler.predefined parsed.statements with
      | .ok (listing, events) => ⟨.ok listing, reading ++ events.reverse⟩
      | .error interrupted =>
          ⟨.error (rejection interrupted), reading ++ interrupted.events.reverse⟩

end Compiler

/-- Compiles a text to the text of its listing. -/
def compileText (text : String) : Except Rejection String :=
  (Compiler.standard.compile (.ofText text)).outcome.map Listing.text

end Shorthand
