import Shorthand.Lowering.Declare

/-!
# Blocks and constructs

Opening a block closes the one before it, which is possible only if no construct is open in it.
A conditional tests its condition at its start.  A loop tests its condition at its end, to which
it branches when it is entered.
-/

namespace Shorthand.Lowering

variable [Interpreter]

/-! ## Blocks -/

/-- Closes the scope that is open, and keeps the code of a body. -/
def closeScope (state : State) : Except Stop State :=
  match state.scope with
  | .nothing | .compile => .ok { state with scope := .nothing }
  | .body body =>
      match body.frames with
      | frame :: _ =>
          state.refuse (.withTexts .blockUnclosed
            [frame.opening.construct.name, frame.name body.kind.name])
      | [] =>
          match body.kind with
          | .main => .ok { state with scope := .nothing, main? := some body.block }
          | .function name =>
              .ok { state with
                scope := .nothing, functions := (name, body.block) :: state.functions }

/-- Opens the block of constants, which starts with those that were given before. -/
def openCompile (predefined : List (String × String)) (state : State) : Except Stop State :=
  if state.compiled then state.refuse (.plain .compileDuplicate)
  else do
    let state ← defineConstants { state with compiled := true } predefined
    return { state with scope := .compile }

/-- The state with a new body open. -/
def openBody (state : State) (kind : BodyKind) : State :=
  { state with scope := .body ⟨kind, .empty, []⟩ }

/-- Opens the program proper.  A missing colon is worth a warning. -/
def openMain (place : Place) (colon : Bool) (state : State) : Except Stop State :=
  if state.main?.isSome then state.refuse (.plain .mainDuplicate)
  else
    let doubt : Failure := .on place (.withTexts .expected [":", "main"])
    let events := if colon then state.events else .warning doubt :: state.events
    .ok (openBody { state with events := events } .main)

/-- Opens a function. -/
def openFunction (name : String) (state : State) : Except Stop State :=
  if (state.functions.lookup name).isSome then
    state.refuse (.withTexts .functionDuplicate [name])
  else .ok (openBody state (.function name))

/-- Opens a block, after the one before it is closed. -/
def openBlock (predefined : List (String × String)) (place : Place) (state : State)
    (head : BlockHead) (colon : Bool) : Except Stop State := do
  let state ← closeScope state
  match head with
  | .compile => openCompile predefined state
  | .main => openMain place colon state
  | .function name => openFunction name state

/-! ## Constructs -/

/-- Adds leaves to the open body. -/
def State.addTo (state : State) (body : Body) (leaves : List Leaf) : Except Stop State := do
  let body ← state.checked (body.addLeaves leaves)
  return { state with scope := .body body }

/-- Opens a construct at the end of the block that is being filled, and puts its first leaves
into its own block. -/
def nest (state : State) (body : Body) (opening : Opening) (number : Nat) (leaves : List Leaf) :
    Except Stop State := do
  state.checked body.current.checkOpen
  let block ← state.checked Block.empty.attach
  state.addTo { body with frames := ⟨opening, number, block⟩ :: body.frames } leaves

/-- The number of the next construct of a kind, with the state after it is given out. -/
def State.nextNumber (state : State) (body : String) (kind : Numbered) : Nat × State :=
  (state.counters.count body kind + 1,
   { state with counters := state.counters.bump body kind })

/-- Opens a conditional. -/
def openBranch (state : State) (cond : Condition) : Except Stop State :=
  match state.scope with
  | .body body =>
      let (number, state) := state.nextNumber body.kind.name .branch
      let name := labelName body.kind.name Opening.branch.word number
      nest state body .branch number (cond.guard name ++ [.label (trueLabel name)])
  | .nothing | .compile => state.refuse (.withTexts .outsideBlock ["if"])

/-- Opens a loop. -/
def openLoop (state : State) (cond? : Option Condition) : Except Stop State :=
  match state.scope with
  | .body body =>
      let (number, state) := state.nextNumber body.kind.name .loop
      let name := labelName body.kind.name Opening.endless.word number
      match cond? with
      | none => nest state body .endless number [.label name]
      | some cond => nest state body (.loop cond) number [.jump (testLabel name), .label name]
  | .nothing | .compile => state.refuse (.withTexts .outsideBlock ["while"])

/-- Ends a construct: adds its last leaves, seals its block, and puts it at the end of the code
around it. -/
def finish (state : State) (body : Body) (frame : Frame) (frames : List Frame)
    (leaves : List Leaf) : Except Stop Body := do
  let block ← state.checked (frame.block.addLeaves leaves)
  state.checked ({ body with frames := frames }.addNode (.block block.close.nodes))

/-- Turns to the alternative of a conditional, whose label has the number of the conditional. -/
def openAlternative (state : State) : Except Stop State :=
  match state.scope with
  | .nothing | .compile => state.refuse (.withTexts .stackEmpty ["else"])
  | .body body =>
      let name := body.kind.name
      match body.frames with
      | [] => state.refuse (.withTexts .stackEmpty ["else"])
      | frame :: frames =>
          match frame.opening with
          | .branch => do
              let leaves : List Leaf :=
                [.jump (labelName name Opening.alternative.word frame.number),
                 .label (falseLabel (frame.name name))]
              let body ← finish state body frame frames leaves
              nest state body .alternative frame.number []
          | .alternative | .loop _ | .endless =>
              state.refuse (.withTexts .stackMismatch
                ["else", frame.opening.construct.name, frame.name name])

/-- The last leaves of a construct with a name. -/
def endingLeaves (opening : Opening) (name : String) : List Leaf :=
  match opening with
  | .branch => [.label (falseLabel name)]
  | .alternative => [.label name]
  | .loop cond =>
      [.label (testLabel name)] ++ cond.guard name ++
        [.label (trueLabel name), .jump name, .label (falseLabel name)]
  | .endless => [.jump name]

/-- Ends the innermost construct, or the block if no construct is open. -/
def closeInnermost (state : State) : Except Stop State :=
  match state.scope with
  | .nothing => state.refuse (.withTexts .stackEmpty ["end"])
  | .compile => closeScope state
  | .body body =>
      match body.frames with
      | [] => closeScope state
      | frame :: frames => do
          let leaves := endingLeaves frame.opening (frame.name body.kind.name)
          let body ← finish state body frame frames leaves
          return { state with scope := .body body }

/-- Takes a comment over into the code or the constants; outside of them it is dropped. -/
def addComment (state : State) (text : String) : Except Stop State :=
  match state.scope with
  | .nothing => .ok state
  | .compile => state.addSetup [.comment text]
  | .body body => state.addTo body [.comment text]

/-- Lowers a simple statement, which has to stand in a body. -/
def addInstruction (state : State) (statement : Statement) : Except Stop State :=
  match state.scope with
  | .nothing | .compile => state.refuse (.withTexts .outsideBlock [statementWord statement])
  | .body body => do
      let (leaf, state) ← instruction state statement
      state.addTo body [leaf]

end Shorthand.Lowering
