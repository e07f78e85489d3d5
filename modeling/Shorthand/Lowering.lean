import Shorthand.Listing
import Shorthand.Lowering.Control
import Shorthand.Statement.Parse

/-!
# From statements to a listing

Every statement is lowered in turn; the first one that cannot be stops the lowering, and its
line is named.  At the end no construct may be open, and there has to be a block of constants
and a program proper.
-/

namespace Shorthand.Lowering

variable [Interpreter]

/-- The state before the first statement. -/
def State.start : State where
  symbols := .empty
  setup := { Block.empty with reversed := [.leaf (.instr ".global" [startLabel])] }
  main? := none
  functions := []
  words := []
  bytes := []
  counters := []
  compiled := false
  scope := .nothing
  events := []

/-- Lowers a statement. -/
def step (predefined : List (String × String)) (state : State) (located : Located) :
    Except Stop State :=
  match located.statement with
  | .block head colon => openBlock predefined located.place state head colon
  | .branch cond => openBranch state cond
  | .otherwise => openAlternative state
  | .loop cond? => openLoop state cond?
  | .close => closeInnermost state
  | .comment text => addComment state text
  | .declare declaration => declare state declaration
  | statement => addInstruction state statement

/-- The end of a lowering that does not succeed, with the line that stopped it. -/
structure Interrupted where
  halt : Halt
  place? : Option Place
  /-- What happened before, the last event first. -/
  events : List Event

/-- Lowers statements in order. -/
def steps (predefined : List (String × String)) (state : State) :
    List Located → Except Interrupted State
  | [] => .ok state
  | located :: rest =>
      match step predefined state located with
      | .ok state => steps predefined state rest
      | .error stop => .error ⟨stop.halt, some located.place, stop.events⟩

/-- The listing of a finished state, in which all blocks are sealed. -/
def listingOf (state : State) (main : Block) : Listing where
  symbols := state.symbols
  setup := state.setup.close.nodes
  main := main.close.nodes
  functions := state.functions.reverse.map fun (name, block) => (name, block.close.nodes)
  words := state.words.reverse
  bytes := state.bytes.reverse

/-- The listing of the state after the last statement. -/
def conclude (state : State) : Except Stop Listing := do
  let state ← closeScope state
  if !state.compiled then state.refuse (.plain .compileMissing)
  else
    match state.main? with
    | none => state.refuse (.plain .mainMissing)
    | some main => return listingOf state main

/-- The listing of statements, with what happened on the way. -/
def lower (predefined : List (String × String)) (statements : List Located) :
    Except Interrupted (Listing × List Event) :=
  match steps predefined .start statements with
  | .error interrupted => .error interrupted
  | .ok state =>
      match conclude state with
      | .ok listing => .ok (listing, state.events)
      | .error stop => .error ⟨stop.halt, none, stop.events⟩

end Shorthand.Lowering
