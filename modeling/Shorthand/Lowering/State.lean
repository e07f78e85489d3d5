import Shorthand.Construct
import Shorthand.Event
import Shorthand.Guard
import Shorthand.Listing.Block
import Shorthand.Symbols

/-!
# The state of a lowering

Statements are lowered one after the other.  Between them the state holds what is finished, and
the scope that is open.  In a body the constructs that wait for their end are on a stack, each
with the block of its own code; when a construct ends, its block goes to the end of the code
around it, to which nothing was added meanwhile.

A statement that cannot be lowered stops the lowering.  What was printed and warned about before
is kept.
-/

namespace Shorthand.Lowering

/-! ## Labels -/

/-- The constructs whose labels are numbered. -/
inductive Numbered where
  | branch
  | loop
deriving DecidableEq, Inhabited

/-- The word for a construct in its labels. -/
def Numbered.word : Numbered → String
  | branch => "if"
  | loop => "while"

/-- How many labels were given out in each body, for each kind of construct. -/
abbrev Counters := List ((String × Numbered) × Nat)

namespace Counters

/-- How many labels were given out. -/
def count (counters : Counters) (body : String) (kind : Numbered) : Nat :=
  (counters.lookup (body, kind)).getD 0

/-- The counters after one more label was given out. -/
def bump (counters : Counters) (body : String) (kind : Numbered) : Counters :=
  ((body, kind), counters.count body kind + 1) ::
    counters.filter fun entry => entry.1 != (body, kind)

end Counters

/-! ## Open constructs -/

/-- A construct that waits for its end. -/
inductive Opening where
  | branch
  | alternative
  /-- A loop, with the condition that is tested at its end. -/
  | loop (cond : Condition)
  | endless
deriving DecidableEq

/-- The kind of the construct. -/
def Opening.construct : Opening → Construct
  | branch => .branch
  | alternative => .alternative
  | loop _ => .loop
  | endless => .endless

/-- The word for the construct in its label. -/
def Opening.word : Opening → String
  | branch => "if"
  | alternative => "else"
  | loop _ | endless => "while"

/-- An open construct of a body. -/
structure Frame where
  opening : Opening
  /-- The number in the label of the construct. -/
  number : Nat
  /-- The code of the construct so far. -/
  block : Block

/-- The label of a construct in a body: the name of the body, a word and a number. -/
def labelName (body word : String) (number : Nat) : String :=
  body ++ "_" ++ word ++ toString number

/-- The name of an open construct, from which its labels are made. -/
def Frame.name (body : String) (frame : Frame) : String :=
  labelName body frame.opening.word frame.number

/-- The label where the condition of a loop is tested. -/
def testLabel (name : String) : String := name ++ "_test"

/-! ## Bodies and scopes -/

/-- The bodies that hold instructions. -/
inductive BodyKind where
  | main
  | function (name : String)
deriving DecidableEq, Inhabited

/-- The name of a body, with which its labels start. -/
def BodyKind.name : BodyKind → String
  | main => "main"
  | function name => name

/-- A body that is open. -/
structure Body where
  kind : BodyKind
  /-- The code outside of open constructs. -/
  block : Block
  /-- The open constructs, the innermost first. -/
  frames : List Frame

/-- What is open. -/
inductive Scope where
  | nothing
  | compile
  | body (body : Body)

/-- The state between two statements. -/
structure State where
  symbols : Symbols
  /-- The globals and the constants of the listing. -/
  setup : Block
  /-- The code of the program proper, if it is finished. -/
  main? : Option Block
  /-- The finished functions, the last one first. -/
  functions : List (String × Block)
  /-- The variables in words, the last one first. -/
  words : List Variable
  /-- The other variables, the last one first. -/
  bytes : List Variable
  counters : Counters
  /-- Whether there was a block of constants. -/
  compiled : Bool
  scope : Scope
  /-- What happened, the last event first. -/
  events : List Event

/-! ## Stopping -/

/-- Why a lowering stops. -/
inductive Halt where
  | problem (problem : Problem)
  | fault (fault : Fault)
deriving DecidableEq

/-- The end of a lowering that does not succeed. -/
structure Stop where
  halt : Halt
  /-- What happened before, the last event first. -/
  events : List Event

namespace State

variable {α : Type}

/-- Stops with a problem. -/
def refuse (state : State) (problem : Problem) : Except Stop α :=
  .error ⟨.problem problem, state.events⟩

/-- Stops if a fault was committed. -/
def checked (state : State) : Except Fault α → Except Stop α
  | .ok result => .ok result
  | .error fault => .error ⟨.fault fault, state.events⟩

/-- Stops if there is a problem. -/
def allowed (state : State) : Except Problem α → Except Stop α
  | .ok result => .ok result
  | .error problem => state.refuse problem

/-- Adds leaves to the globals and the constants. -/
def addSetup (state : State) (leaves : List Leaf) : Except Stop State := do
  let setup ← state.checked (state.setup.addLeaves leaves)
  return { state with setup := setup }

end State

namespace Body

/-- Adds leaves to the innermost open construct, or to the body outside of all constructs. -/
def addLeaves (body : Body) (leaves : List Leaf) : Except Fault Body :=
  match body.frames with
  | [] => do
      let block ← body.block.addLeaves leaves
      return { body with block := block }
  | frame :: frames => do
      let block ← frame.block.addLeaves leaves
      return { body with frames := { frame with block := block } :: frames }

/-- The block that is being filled. -/
def current (body : Body) : Block :=
  match body.frames with
  | [] => body.block
  | frame :: _ => frame.block

/-- Adds a finished node to the block that is being filled. -/
def addNode (body : Body) (node : Node) : Except Fault Body :=
  match body.frames with
  | [] => do
      let block ← body.block.add [node]
      return { body with block := block }
  | frame :: frames => do
      let block ← frame.block.add [node]
      return { body with frames := { frame with block := block } :: frames }

end Body

end Shorthand.Lowering
