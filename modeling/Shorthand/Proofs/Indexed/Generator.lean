import Shorthand.Lowering
import Shorthand.Proofs.Indexed.Containers
import Shorthand.Proofs.Indexed.Lexer

/-!
# Lowering into shared containers

A lowering keeps the blocks of constructs that are open apart from the code around them.  Here they
are shared instead: a new block is put into the code around it as soon as it is opened, and is
filled there.  Where code is added is known by the number of a container, the append point; it moves
inwards when a construct is opened, and back to where it was when the construct turns to its
alternative or ends.  There is no append point outside of bodies.

Whoever uses an append point where there is none is trapped, and so is whoever commits a fault:
there is no such check for a problem of the source.
-/

namespace Shorthand.Indexed

open Attempt Lowering

/-! ## Generators -/

/-- A construct that waits for its end. -/
structure Pending where
  opening : Opening
  /-- The number in the label of the construct. -/
  number : Nat
  /-- The container of its code. -/
  block : Nat
  /-- The append point around it. -/
  outer? : Option Nat

/-- The state of a lowering into shared containers. -/
structure Generator where
  /-- The symbols, the variables, the counters and the events.  The code in it is not used. -/
  facts : State
  arena : Arena
  /-- Whether the program proper was opened. -/
  mained : Bool
  /-- The functions with their containers, in order. -/
  functions : List (String × Nat)
  /-- The open constructs, the innermost first. -/
  stack : List Pending
  /-- The block that is open. -/
  scope? : Option BlockHead
  /-- The name of the block that is open, with which its labels start. -/
  name : String
  /-- The append point. -/
  current? : Option Nat

namespace Generator

/-- The container of the globals and the constants. -/
def setupNumber : Nat := 0

/-- The container of the program proper. -/
def mainNumber : Nat := 1

variable [Interpreter] {α : Type} (g : Generator)

/-- Stops with a problem. -/
def refuse (problem : Problem) : Attempt Stop α := .error ⟨.problem problem, g.facts.events⟩

/-- What a computation gives, or a trap if it commits a fault. -/
def permit : Except Stop α → Attempt Stop α
  | .ok value => .ok value
  | .error ⟨.problem problem, events⟩ => .error ⟨.problem problem, events⟩
  | .error ⟨.fault fault, _⟩ => .trapped (.fault fault)

/-- Adds children to a container. -/
def add (number : Nat) (children : List Child) : Attempt Stop Generator :=
  match g.arena.add number children with
  | (arena, none) => .ok { g with arena := arena }
  | (_, some fault) => .trapped (.fault fault)

/-- Adds leaves to a container. -/
def addLeaves (number : Nat) (leaves : List Leaf) : Attempt Stop Generator :=
  g.add number (leaves.map .leaf)

/-- Adds children at the append point. -/
def append (children : List Child) : Attempt Stop Generator :=
  match g.current? with
  | some number => g.add number children
  | none => .trapped .noAppendPoint

/-- Adds leaves at the append point. -/
def appendLeaves (leaves : List Leaf) : Attempt Stop Generator := g.append (leaves.map .leaf)

/-- The generator before the first statement. -/
def start : Attempt Stop Generator :=
  let arena := ((Arena.empty.make .plain).1.make .main).1
  addLeaves ⟨.start, arena, false, [], [], none, "", none⟩ setupNumber
    [.instr ".global" [startLabel]]

/-! ## Blocks and constants -/

/-- The name of a construct, from which its labels are made. -/
def nameOf (pending : Pending) : String := labelName g.name pending.opening.word pending.number

/-- Closes the block that is open. -/
def close : Attempt Stop Generator :=
  match g.stack with
  | pending :: _ =>
      g.refuse (.withTexts .blockUnclosed [pending.opening.construct.name, g.nameOf pending])
  | [] => .ok { g with scope? := none, name := "", current? := none }

/-- Whether a text is a single expression. -/
def isSingle (text : String) : Attempt Stop Bool := do
  let lexed ← lex text
  andAlso (lexed.tokens.length == 1) do return (← index lexed.tokens 0).kind == .expr

/-- Defines a constant. -/
def constant (name value : String) : Attempt Stop Generator := do
  let (text, facts) ←
    if ← isSingle value then permit (Lowering.expression g.facts value) else .ok (value, g.facts)
  let facts := { facts with symbols := facts.symbols.setConstant name text }
  addLeaves { g with facts := facts } setupNumber [.instr ".equ" [name, text]]

/-- Defines constants in order. -/
def constants (g : Generator) : List (String × String) → Attempt Stop Generator
  | [] => .ok g
  | (name, value) :: rest => do constants (← g.constant name value) rest

/-- Opens the block of constants. -/
def openCompile (predefined : List (String × String)) : Attempt Stop Generator :=
  if g.facts.compiled then g.refuse (.plain .compileDuplicate)
  else do
    let g ← constants { g with facts := { g.facts with compiled := true }, name := "compile" }
      predefined
    return { g with scope? := some .compile }

/-- Opens the program proper. -/
def openMain (place : Place) (colon : Bool) : Attempt Stop Generator :=
  if g.mained then g.refuse (.plain .mainDuplicate)
  else
    let doubt : Failure := .on place (.withTexts .expected [":", "main"])
    let events := if colon then g.facts.events else .warning doubt :: g.facts.events
    .ok { g with
      facts := { g.facts with events := events }, mained := true, scope? := some .main,
      name := "main", current? := some mainNumber }

/-- Opens a function. -/
def openFunction (name : String) : Attempt Stop Generator :=
  if (g.functions.lookup name).isSome then g.refuse (.withTexts .functionDuplicate [name])
  else
    let made := g.arena.make (.function name)
    .ok { g with
      arena := made.1, functions := g.functions ++ [(name, made.2)],
      scope? := some (.function name), name := name, current? := some made.2 }

/-- Opens a block, after the one before it is closed. -/
def openBlock (predefined : List (String × String)) (place : Place) (head : BlockHead)
    (colon : Bool) : Attempt Stop Generator := do
  let g ← g.close
  match head with
  | .compile => g.openCompile predefined
  | .main => g.openMain place colon
  | .function name => g.openFunction name

/-! ## Constructs -/

/-- Puts a new container at the append point, and makes it the append point. -/
def nest (opening : Opening) (number : Nat) : Attempt Stop Generator := do
  let made := g.arena.make .plain
  let nested ← append { g with arena := made.1 } [.container made.2]
  return { nested with
    stack := ⟨opening, number, made.2, g.current?⟩ :: g.stack, current? := some made.2 }

/-- Opens a construct with its first leaves. -/
def enter (opening : Opening) (number : Nat) (leaves : List Leaf) : Attempt Stop Generator := do
  let nested ← g.nest opening number
  nested.appendLeaves leaves

/-- Opens a conditional. -/
def openBranch (cond : Condition) : Attempt Stop Generator :=
  match g.current? with
  | none => g.refuse (.withTexts .outsideBlock ["if"])
  | some _ =>
      let (number, facts) := g.facts.nextNumber g.name .branch
      let name := labelName g.name Opening.branch.word number
      enter { g with facts := facts } .branch number (cond.guard name ++ [.label (trueLabel name)])

/-- Opens a loop. -/
def openLoop (cond? : Option Condition) : Attempt Stop Generator :=
  match g.current? with
  | none => g.refuse (.withTexts .outsideBlock ["while"])
  | some _ =>
      let (number, facts) := g.facts.nextNumber g.name .loop
      let name := labelName g.name Opening.endless.word number
      match cond? with
      | none => enter { g with facts := facts } .endless number [.label name]
      | some cond =>
          enter { g with facts := facts } (.loop cond) number
            [.jump (testLabel name), .label name]

/-- Ends the code of a construct with the given leaves, and goes back to the append point around
it. -/
def finish (pending : Pending) (stack : List Pending) (leaves : List Leaf) :
    Attempt Stop Generator := do
  let g ← addLeaves { g with stack := stack } pending.block leaves
  return { g with arena := g.arena.close pending.block, current? := pending.outer? }

/-- Turns to the alternative of a conditional. -/
def openAlternative : Attempt Stop Generator :=
  match g.stack with
  | [] => g.refuse (.withTexts .stackEmpty ["else"])
  | pending :: stack =>
      match pending.opening with
      | .branch => do
          let g ← g.finish pending stack
            [.jump (labelName g.name Opening.alternative.word pending.number),
             .label (falseLabel (g.nameOf pending))]
          g.nest .alternative pending.number
      | .alternative | .loop _ | .endless =>
          g.refuse (.withTexts .stackMismatch
            ["else", pending.opening.construct.name, g.nameOf pending])

/-- Ends the innermost construct, or the block if no construct is open. -/
def closeInnermost : Attempt Stop Generator :=
  match g.stack with
  | pending :: stack => g.finish pending stack (endingLeaves pending.opening (g.nameOf pending))
  | [] =>
      match g.scope? with
      | none => g.refuse (.withTexts .stackEmpty ["end"])
      | some _ => g.close

/-- Takes a comment over. -/
def comment (text : String) : Attempt Stop Generator :=
  match g.current? with
  | some number => g.addLeaves number [.comment text]
  | none =>
      match g.scope? with
      | some .compile => g.addLeaves setupNumber [.comment text]
      | _ => .ok g

/-! ## Declarations and instructions -/

/-- Lowers a declaration. -/
def declare : Declaration → Attempt Stop Generator
  | .const name value =>
      match g.scope? with
      | some .compile => g.constant name value
      | _ => g.refuse (.withTexts .constOutsideCompile [name])
  | declaration => do return { g with facts := ← permit (Lowering.declare g.facts declaration) }

/-- Lowers a simple statement. -/
def instruction (statement : Statement) : Attempt Stop Generator :=
  match g.current? with
  | none => g.refuse (.withTexts .outsideBlock [statementWord statement])
  | some _ => do
      let (leaf, facts) ← permit (Lowering.instruction g.facts statement)
      appendLeaves { g with facts := facts } [leaf]

/-- Lowers a statement. -/
def step (predefined : List (String × String)) (located : Located) : Attempt Stop Generator :=
  match located.statement with
  | .block head colon => g.openBlock predefined located.place head colon
  | .branch cond => g.openBranch cond
  | .otherwise => g.openAlternative
  | .loop cond? => g.openLoop cond?
  | .close => g.closeInnermost
  | .comment text => g.comment text
  | .declare declaration => g.declare declaration
  | statement => g.instruction statement

/-- The listing after the last statement, when all containers are sealed. -/
def conclude : Attempt Stop Listing := do
  let g ← g.close
  if !g.facts.compiled then g.refuse (.plain .compileMissing)
  else if !g.mained then g.refuse (.plain .mainMissing)
  else
    let numbers := setupNumber :: mainNumber :: g.functions.map Prod.snd
    let arena := g.arena.closeAll numbers
    return {
      symbols := g.facts.symbols
      setup := arena.nodes setupNumber
      main := arena.nodes mainNumber
      functions := g.functions.map fun (name, number) => (name, arena.nodes number)
      words := g.facts.words.reverse
      bytes := g.facts.bytes.reverse }

end Generator

/-- An attempt of a lowering, where an error names the line that stopped it. -/
def interrupt {α : Type} (place? : Option Place) : Attempt Stop α → Attempt Interrupted α
  | .ok value => .ok value
  | .error stop => .error ⟨stop.halt, place?, stop.events⟩
  | .trapped trap => .trapped trap

/-- Lowers statements in order. -/
def steps [Interpreter] (predefined : List (String × String)) (g : Generator) :
    List Located → Attempt Interrupted Generator
  | [] => .ok g
  | located :: rest => do
      steps predefined (← interrupt (some located.place) (g.step predefined located)) rest

/-- The listing of statements, with what happened on the way. -/
def lower [Interpreter] (predefined : List (String × String)) (statements : List Located) :
    Attempt Interrupted (Listing × List Event) := do
  let g ← steps predefined (← interrupt none Generator.start) statements
  return (← interrupt none g.conclude, g.facts.events)

end Shorthand.Indexed
