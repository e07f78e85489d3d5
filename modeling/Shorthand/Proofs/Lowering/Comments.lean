import Shorthand.Expression.Execute
import Shorthand.Proofs.Lowering.Bodies
import Shorthand.Proofs.Lowering.Output
import Shorthand.Proofs.Lowering.Predefined
import Shorthand.Proofs.Lowering.Runs
import Shorthand.Proofs.Syntax.Comments

/-!
# Comments have no influence

A comment of the source becomes a comment of the code around it, or nothing, and this is all that it
does.  Take the comments out of the code that a state holds (`State.uncommented`): a statement that
is no comment leads from what is left to what is left afterwards, or stops with the same problem
(`step_uncommented`), and a comment leads to the same state again (`step_comment`).

So lowering the statements of a source without their comments comes to the same listing without its
comments, or fails for the same reason on a line with the same number (`lower_uncommented`).  Since
a source can be parsed without its comments just as well (`parse_withoutComments`), a compilation
comes to the same (`ending_withoutComments`).
-/

namespace Shorthand

open Machine

/-! ## Code without comments -/

/-- Whether the leaf is a comment of the source. -/
def Leaf.isComment : Leaf → Bool
  | .comment _ => true
  | .instr _ _ | .branch _ _ _ | .label _ | .text _ => false

/-- The leaves that are no comments. -/
def Leaf.uncommented (leaves : List Leaf) : List Leaf := leaves.filter fun leaf => !leaf.isComment

theorem Leaf.uncommented_cons (first : Leaf) (leaves : List Leaf) :
    uncommented (first :: leaves) =
      (if first.isComment then [] else [first]) ++ uncommented leaves := by
  rw [uncommented, List.filter_cons]
  cases first.isComment <;> rfl

theorem Leaf.uncommented_append (first second : List Leaf) :
    uncommented (first ++ second) = uncommented first ++ uncommented second :=
  List.filter_append ..

namespace Node

mutual

/-- A node without the comments in it, and nothing of a comment. -/
def uncommented : Node → List Node
  | leaf single => if single.isComment then [] else [leaf single]
  | block nodes => [block (allUncommented nodes)]

/-- Nodes without the comments among them and in them. -/
def allUncommented : List Node → List Node
  | [] => []
  | node :: nodes => uncommented node ++ allUncommented nodes

end

@[simp] theorem allUncommented_nil : allUncommented [] = [] := by rw [allUncommented]

@[simp] theorem allUncommented_cons (node : Node) (nodes : List Node) :
    allUncommented (node :: nodes) = uncommented node ++ allUncommented nodes := by
  rw [allUncommented]

@[simp] theorem uncommented_block (nodes : List Node) :
    uncommented (block nodes) = [block (allUncommented nodes)] := by
  rw [uncommented]

@[simp] theorem allUncommented_append (first second : List Node) :
    allUncommented (first ++ second) = allUncommented first ++ allUncommented second := by
  induction first with
  | nil => simp
  | cons node first ih => simp [ih]

@[simp] theorem allUncommented_reverse (nodes : List Node) :
    allUncommented nodes.reverse = (allUncommented nodes).reverse := by
  have hsingle : ∀ node, (uncommented node).reverse = uncommented node := by
    intro node
    cases node with
    | leaf single =>
        rw [uncommented]
        split <;> rfl
    | block nodes =>
        rw [uncommented_block]
        rfl
  induction nodes with
  | nil => simp
  | cons node nodes ih => simp [ih, hsingle]

theorem allUncommented_ofLeaves (leaves : List Leaf) :
    allUncommented (ofLeaves leaves) = ofLeaves (Leaf.uncommented leaves) := by
  induction leaves with
  | nil => simp [ofLeaves, Leaf.uncommented]
  | cons single leaves ih =>
      have hrest : ofLeaves (single :: leaves) = leaf single :: ofLeaves leaves := rfl
      rw [hrest, allUncommented_cons, ih, uncommented, Leaf.uncommented_cons]
      cases single.isComment <;> rfl

mutual

/-- The leaves that are left are those that are no comments. -/
theorem leavesOf_uncommented : ∀ node : Node,
    leavesOf (uncommented node) = Leaf.uncommented (leaves node)
  | leaf single => by
      rw [uncommented, leaves, Leaf.uncommented_cons]
      cases single.isComment with
      | true => rfl
      | false => exact leavesOf_leaf single
  | block nodes => by
      rw [uncommented_block, leavesOf_block, leaves, leavesOf_allUncommented nodes, leavesOf_nil,
        List.append_nil]

theorem leavesOf_allUncommented : ∀ nodes : List Node,
    leavesOf (allUncommented nodes) = Leaf.uncommented (leavesOf nodes)
  | [] => by rw [allUncommented_nil, leavesOf_nil]; rfl
  | node :: nodes => by
      rw [allUncommented_cons, leavesOf_append, leavesOf_uncommented node,
        leavesOf_allUncommented nodes, leavesOf, Leaf.uncommented_append]

end

end Node

/-- The code of a guard holds no comments. -/
theorem Guard.uncommented_build (base : String) (cond : Condition) (name : String) (given : Nat) :
    Leaf.uncommented (build base cond name given).1 = (build base cond name given).1 := by
  induction cond generalizing name given with
  | compare a cmp b => rfl
  | both lhs rhs ihl ihr =>
      simp only [build, joinBoth, Leaf.uncommented_append, ihl, ihr]
      rfl
  | either lhs rhs ihl ihr =>
      simp only [build, joinEither, Leaf.uncommented_append, ihl, ihr]
      rfl

/-- The block without its comments. -/
def Block.uncommented (block : Block) : Block :=
  { block with reversed := Node.allUncommented block.reversed }

/-- The listing without its comments. -/
def Listing.uncommented (listing : Listing) : Listing :=
  { listing with
    setup := Node.allUncommented listing.setup
    main := Node.allUncommented listing.main
    functions := listing.functions.map fun entry => (entry.1, Node.allUncommented entry.2) }

namespace Lowering

/-- The open construct without the comments in its code. -/
def Frame.uncommented (frame : Frame) : Frame :=
  { frame with block := frame.block.uncommented }

/-- The body without the comments in its code. -/
def Body.uncommented (body : Body) : Body :=
  { body with
    block := body.block.uncommented, frames := body.frames.map Frame.uncommented }

/-- The scope without the comments in its code. -/
def Scope.uncommented : Scope → Scope
  | .nothing => .nothing
  | .compile => .compile
  | .body b => .body b.uncommented

/-- The code of the state without its comments. -/
def State.codeOnly (state : State) : Output where
  setup := state.setup.uncommented
  main? := state.main?.map Block.uncommented
  functions := state.functions.map fun entry => (entry.1, entry.2.uncommented)
  scope := state.scope.uncommented

/-- The state without the comments in its code. -/
def State.uncommented (state : State) : State := state.withOutput state.codeOnly

theorem scope_uncommented (state : State) :
    state.uncommented.scope = state.scope.uncommented := rfl

/-! ## Filling blocks -/

section blocks

variable (state : State) (block : Block) (body : Body) (leaves : List Leaf) (nodes : List Node)

theorem nodes_uncommented :
    block.uncommented.close.nodes = Node.allUncommented block.close.nodes :=
  (Node.allUncommented_reverse block.reversed).symm

theorem add_uncommented :
    block.uncommented.add (Node.allUncommented nodes) =
      (block.add nodes).map Block.uncommented := by
  unfold Block.add Block.checkOpen
  have hsealed : block.uncommented.isSealed = block.isSealed := rfl
  rw [hsealed]
  cases block.isSealed with
  | true => rfl
  | false =>
      refine congrArg Except.ok ?_
      simp [Block.uncommented]

theorem addLeaves_uncommented :
    block.uncommented.addLeaves (Leaf.uncommented leaves) =
      (block.addLeaves leaves).map Block.uncommented := by
  rw [Block.addLeaves, ← Node.allUncommented_ofLeaves]
  exact add_uncommented block _

theorem Body.addLeaves_uncommented :
    body.uncommented.addLeaves (Leaf.uncommented leaves) =
      (body.addLeaves leaves).map Body.uncommented := by
  obtain ⟨kind, block, frames⟩ := body
  cases frames with
  | nil =>
      simp only [Body.addLeaves, Body.uncommented, List.map_nil,
        Lowering.addLeaves_uncommented]
      cases block.addLeaves leaves <;> rfl
  | cons frame frames =>
      simp only [Body.addLeaves, Body.uncommented, Frame.uncommented, List.map_cons,
        Lowering.addLeaves_uncommented]
      cases frame.block.addLeaves leaves <;> rfl

theorem Body.addNode_uncommented :
    body.uncommented.addNode (.block (Node.allUncommented nodes)) =
      (body.addNode (.block nodes)).map Body.uncommented := by
  have hnode : [Node.block (Node.allUncommented nodes)] = Node.allUncommented [.block nodes] := by
    simp
  obtain ⟨kind, block, frames⟩ := body
  cases frames with
  | nil =>
      simp only [Body.addNode, Body.uncommented, List.map_nil, hnode, add_uncommented]
      cases block.add [.block nodes] <;> rfl
  | cons frame frames =>
      simp only [Body.addNode, Body.uncommented, Frame.uncommented, List.map_cons, hnode,
        add_uncommented]
      cases frame.block.add [.block nodes] <;> rfl

theorem checkOpen_uncommented :
    body.uncommented.current.checkOpen = body.current.checkOpen := by
  obtain ⟨kind, block, frames⟩ := body
  cases frames <;> rfl

theorem addSetup_uncommented :
    state.uncommented.addSetup (Leaf.uncommented leaves) =
      (state.addSetup leaves).map State.uncommented := by
  have hsetup : state.uncommented.setup = state.setup.uncommented := rfl
  unfold State.addSetup
  rw [hsetup, addLeaves_uncommented]
  cases state.setup.addLeaves leaves <;> rfl

theorem addTo_uncommented :
    state.uncommented.addTo body.uncommented (Leaf.uncommented leaves) =
      (state.addTo body leaves).map State.uncommented := by
  unfold State.addTo
  rw [Body.addLeaves_uncommented]
  cases body.addLeaves leaves <;> rfl

theorem nest_uncommented (opening : Opening) (number : Nat) :
    nest state.uncommented body.uncommented opening number (Leaf.uncommented leaves) =
      (nest state body opening number leaves).map State.uncommented := by
  unfold nest
  rw [checkOpen_uncommented]
  cases body.current.checkOpen with
  | error fault => rfl
  | ok _ =>
      exact addTo_uncommented state
        { body with
          frames := ⟨opening, number, { Block.empty with attached := true }⟩ :: body.frames }
        leaves

theorem finish_uncommented (frame : Frame) (frames : List Frame) :
    finish state.uncommented body.uncommented frame.uncommented (frames.map Frame.uncommented)
        (Leaf.uncommented leaves) =
      (finish state body frame frames leaves).map Body.uncommented := by
  have hblock : frame.uncommented.block = frame.block.uncommented := rfl
  unfold finish
  rw [hblock, addLeaves_uncommented]
  cases frame.block.addLeaves leaves with
  | error fault => rfl
  | ok filled =>
      have hadd := Body.addNode_uncommented { body with frames := frames } filled.close.nodes
      rw [← nodes_uncommented] at hadd
      have hstep : state.uncommented.checked ({ body.uncommented with
          frames := frames.map Frame.uncommented }.addNode
            (.block filled.uncommented.close.nodes)) =
          (state.checked ({ body with frames := frames }.addNode
            (.block filled.close.nodes))).map Body.uncommented := by
        refine (congrArg state.uncommented.checked hadd).trans ?_
        cases { body with frames := frames }.addNode (.block filled.close.nodes) <;> rfl
      exact hstep

end blocks

/-! ## Operands, instructions and variables -/

section operands

variable [Interpreter] (state : State)

omit [Interpreter] in
/-- What does not touch the code leaves it without its comments. -/
theorem withOutput_codeOnly {state next : State} {output : Output}
    (hown : state.withOutput output = state) (h : next = next.withOutput output) :
    next.withOutput state.codeOnly = next.uncommented := by
  rw [← hown, h]
  rfl

omit [Interpreter] in
theorem uncommented_of_carry {α : Type} (f : State → Except Stop (α × State))
    (hf : ∀ state output, f (state.withOutput output) = (f state).map output.carry) :
    f state.uncommented = (f state).map fun result => (result.1, result.2.uncommented) := by
  have hown : f state = _ := hf state ⟨state.setup, state.main?, state.functions, state.scope⟩
  rw [State.uncommented, hf]
  cases hresult : f state with
  | error stop => rfl
  | ok result =>
      rw [hresult] at hown
      have hcarried := congrArg Prod.snd (Except.ok.inj hown)
      exact congrArg (fun next => Except.ok (result.1, next)) (withOutput_codeOnly rfl hcarried)

theorem instruction_uncommented (statement : Statement) :
    instruction state.uncommented statement =
      (instruction state statement).map fun result => (result.1, result.2.uncommented) :=
  uncommented_of_carry state (instruction · statement) fun state output =>
    instruction_withOutput state output statement

theorem constantText_uncommented (value : String) :
    constantText state.uncommented value =
      (constantText state value).map fun result => (result.1, result.2.uncommented) := by
  refine uncommented_of_carry state (constantText · value) fun state output => ?_
  unfold constantText
  split
  · exact expression_withOutput state output value
  · rfl

theorem defineConstant_uncommented (name value : String) :
    defineConstant state.uncommented name value =
      (defineConstant state name value).map State.uncommented := by
  rw [defineConstant_eq, defineConstant_eq, constantText_uncommented]
  cases constantText state value with
  | error stop => rfl
  | ok result =>
      obtain ⟨text, next⟩ := result
      have hsetup := addSetup_uncommented next [.instr ".equ" [name, text]]
      have hplain : Leaf.uncommented [.instr ".equ" [name, text]] =
          [.instr ".equ" [name, text]] := rfl
      rw [hplain] at hsetup
      simp only [Except.map, bind, Except.bind, hsetup]
      cases next.addSetup [.instr ".equ" [name, text]] <;> rfl

theorem defineConstants_uncommented (defined : List (String × String)) :
    defineConstants state.uncommented defined =
      (defineConstants state defined).map State.uncommented := by
  induction defined generalizing state with
  | nil => rfl
  | cons entry defined ih =>
      obtain ⟨name, value⟩ := entry
      rw [defineConstants, defineConstants, defineConstant_uncommented]
      cases defineConstant state name value with
      | error stop => rfl
      | ok next => exact ih next

theorem declareVariable_uncommented {declaration : Declaration}
    (h : declaration.isVariable = true) :
    declare state.uncommented declaration =
      (declare state declaration).map State.uncommented := by
  have hcarry := uncommented_of_carry state
    (fun state => (declare state declaration).map fun next => ((), next)) fun state output => by
      rw [declare_withOutput state output h]
      cases declare state declaration <;> rfl
  -- a declaration has no result besides the state
  replace hcarry := congrArg (Except.map Prod.snd) hcarry
  revert hcarry
  cases declare state.uncommented declaration <;> cases declare state declaration <;> exact id

theorem declare_uncommented (declaration : Declaration) :
    declare state.uncommented declaration =
      (declare state declaration).map State.uncommented := by
  by_cases hvariable : declaration.isVariable = true
  · exact declareVariable_uncommented state hvariable
  cases declaration with
  | scalar | array | string | buffer => exact absurd rfl hvariable
  | const name value =>
      unfold declare
      rw [scope_uncommented]
      cases state.scope with
      | nothing | body body => rfl
      | compile => exact defineConstant_uncommented state name value

theorem addInstruction_uncommented (statement : Statement) :
    addInstruction state.uncommented statement =
      (addInstruction state statement).map State.uncommented := by
  unfold addInstruction
  rw [scope_uncommented]
  cases state.scope with
  | nothing | compile => rfl
  | body body =>
      simp only [Scope.uncommented]
      rw [instruction_uncommented]
      cases hinstruction : instruction state statement with
      | error stop => rfl
      | ok result =>
          obtain ⟨leaf, next⟩ := result
          obtain ⟨hleaf, -⟩ := (instruction_yields state statement).of_ok hinstruction
          obtain ⟨mnemonic, operands, rfl⟩ := eq_instr_of_selected hleaf
          exact addTo_uncommented next body [.instr mnemonic operands]

end operands

/-! ## Blocks and constructs -/

section control

variable (state : State)

theorem closeScope_uncommented :
    closeScope state.uncommented = (closeScope state).map State.uncommented := by
  unfold closeScope
  rw [scope_uncommented]
  rcases state.scope with _ | _ | ⟨kind, block, _ | ⟨frame, frames⟩⟩
  · rfl
  · rfl
  · cases kind <;> rfl
  · rfl

theorem openCompile_uncommented [Interpreter] (predefined : List (String × String)) :
    openCompile predefined state.uncommented =
      (openCompile predefined state).map State.uncommented := by
  have hcompiled : state.uncommented.compiled = state.compiled := rfl
  unfold openCompile
  rw [hcompiled]
  split
  · rfl
  · have hdefined := defineConstants_uncommented { state with compiled := true } predefined
    refine (congrArg (· >>= _) hdefined).trans ?_
    cases defineConstants { state with compiled := true } predefined <;> rfl

theorem openMain_uncommented (place : Place) (colon : Bool) :
    openMain place colon state.uncommented =
      (openMain place colon state).map State.uncommented := by
  have hmain : state.uncommented.main?.isSome = state.main?.isSome := Option.isSome_map
  unfold openMain
  rw [hmain]
  split <;> rfl

theorem lookup_isSome_uncommented (functions : List (String × Block)) (name : String) :
    ((functions.map fun entry => (entry.1, entry.2.uncommented)).lookup name).isSome =
      (functions.lookup name).isSome := by
  induction functions with
  | nil => rfl
  | cons entry functions ih =>
      rw [List.map_cons, List.lookup_cons, List.lookup_cons]
      cases name == entry.1 with
      | true => rfl
      | false => exact ih

theorem openFunction_uncommented (name : String) :
    openFunction name state.uncommented = (openFunction name state).map State.uncommented := by
  have hfunctions := lookup_isSome_uncommented state.functions name
  change (state.uncommented.functions.lookup name).isSome = _ at hfunctions
  unfold openFunction
  rw [hfunctions]
  split <;> rfl

theorem openBlock_uncommented [Interpreter] (predefined : List (String × String)) (place : Place)
    (head : BlockHead) (colon : Bool) :
    openBlock predefined place state.uncommented head colon =
      (openBlock predefined place state head colon).map State.uncommented := by
  unfold openBlock
  rw [closeScope_uncommented]
  cases closeScope state with
  | error stop => rfl
  | ok closed =>
      cases head with
      | compile => exact openCompile_uncommented closed predefined
      | main => exact openMain_uncommented closed place colon
      | function name => exact openFunction_uncommented closed name

/-- The first leaves of a conditional are no comments. -/
theorem uncommented_branchLeaves (cond : Condition) (name : String) :
    Leaf.uncommented (cond.guard name ++ [.label (trueLabel name)]) =
      cond.guard name ++ [.label (trueLabel name)] := by
  rw [Leaf.uncommented_append, Condition.guard, Guard.uncommented_build]
  rfl

/-- The last leaves of a construct are no comments. -/
theorem uncommented_endingLeaves (opening : Opening) (name : String) :
    Leaf.uncommented (endingLeaves opening name) = endingLeaves opening name := by
  cases opening with
  | branch | alternative | endless => rfl
  | loop cond =>
      simp only [endingLeaves, Leaf.uncommented_append, Condition.guard, Guard.uncommented_build]
      rfl

theorem openBranch_uncommented (cond : Condition) :
    openBranch state.uncommented cond = (openBranch state cond).map State.uncommented := by
  unfold openBranch
  rw [scope_uncommented]
  cases state.scope with
  | nothing | compile => rfl
  | body body =>
      have hnest := nest_uncommented (state.nextNumber body.kind.name .branch).2 body
        (cond.guard (labelName body.kind.name Opening.branch.word
            (state.nextNumber body.kind.name .branch).1) ++
          [.label (trueLabel (labelName body.kind.name Opening.branch.word
            (state.nextNumber body.kind.name .branch).1))])
        .branch (state.nextNumber body.kind.name .branch).1
      rw [uncommented_branchLeaves] at hnest
      exact hnest

theorem openLoop_uncommented (cond? : Option Condition) :
    openLoop state.uncommented cond? = (openLoop state cond?).map State.uncommented := by
  unfold openLoop
  rw [scope_uncommented]
  cases state.scope with
  | nothing | compile => rfl
  | body body =>
      cases cond? with
      | none => exact nest_uncommented (state.nextNumber body.kind.name .loop).2 body [.label _] _ _
      | some cond =>
          exact nest_uncommented (state.nextNumber body.kind.name .loop).2 body
            [.jump _, .label _] _ _

theorem openAlternative_uncommented :
    openAlternative state.uncommented = (openAlternative state).map State.uncommented := by
  unfold openAlternative
  rw [scope_uncommented]
  rcases state.scope with _ | _ | ⟨kind, block, _ | ⟨⟨opening, number, inner⟩, frames⟩⟩
  · rfl
  · rfl
  · rfl
  · cases opening with
    | alternative | loop | endless => rfl
    | branch =>
        have hfinish := finish_uncommented state ⟨kind, block, ⟨.branch, number, inner⟩ :: frames⟩
          [.jump (labelName kind.name Opening.alternative.word number),
            .label (falseLabel (labelName kind.name Opening.branch.word number))]
          ⟨.branch, number, inner⟩ frames
        refine (congrArg (· >>= _) hfinish).trans ?_
        simp only [Frame.name]
        generalize finish state _ _ _ _ = finished
        rcases finished with stop | body
        · rfl
        · exact nest_uncommented state body [] .alternative number

theorem closeInnermost_uncommented :
    closeInnermost state.uncommented = (closeInnermost state).map State.uncommented := by
  have hclose := closeScope_uncommented state
  unfold closeInnermost
  rw [scope_uncommented]
  rcases state.scope with _ | _ | ⟨kind, block, _ | ⟨⟨opening, number, inner⟩, frames⟩⟩
  · rfl
  · exact hclose
  · exact hclose
  · have hfinish := finish_uncommented state ⟨kind, block, ⟨opening, number, inner⟩ :: frames⟩
      (endingLeaves opening (labelName kind.name opening.word number)) ⟨opening, number, inner⟩
      frames
    rw [uncommented_endingLeaves] at hfinish
    refine (congrArg (· >>= _) hfinish).trans ?_
    simp only [Frame.name]
    generalize finish state _ _ _ _ = finished
    rcases finished with stop | body <;> rfl

/-! ## Statements -/

/-- A step for a statement that is no comment is the same without the comments in the code. -/
theorem step_uncommented [Interpreter] (predefined : List (String × String)) {located : Located}
    (h : located.statement.isComment = false) :
    step predefined state.uncommented located =
      (step predefined state located).map State.uncommented := by
  obtain ⟨place, statement⟩ := located
  cases statement with
  | comment => cases h
  | block head colon => exact openBlock_uncommented state predefined place head colon
  | branch cond => exact openBranch_uncommented state cond
  | otherwise => exact openAlternative_uncommented state
  | loop cond? => exact openLoop_uncommented state cond?
  | close => exact closeInnermost_uncommented state
  | declare declaration => exact declare_uncommented state declaration
  | call | move | address | load | loadName | loadImmediate | operate | store =>
      exact addInstruction_uncommented state _

variable {state}

/-- A comment can stand everywhere, and leads to the same state but for itself. -/
theorem step_comment [Interpreter] (predefined : List (String × String)) (place : Place)
    (text : String) (hsound : state.Sound) :
    ∃ next, step predefined state ⟨place, .comment text⟩ = .ok next ∧
      next.uncommented = state.uncommented := by
  change ∃ next, addComment state text = .ok next ∧ _
  unfold addComment
  cases hscope : state.scope with
  | nothing => exact ⟨state, rfl, rfl⟩
  | compile => exact ⟨_, addSetup_eq hsound.setup_open [.comment text], rfl⟩
  | body body =>
      refine ⟨_, addTo_eq state (hsound.body_open body hscope) [.comment text], ?_⟩
      have hbody : (body.put (Node.ofLeaves [.comment text])).uncommented = body.uncommented := by
        obtain ⟨kind, block, _ | ⟨frame, frames⟩⟩ := body <;> rfl
      simp only [State.uncommented, State.codeOnly, State.withOutput, State.inBody, hscope,
        Scope.uncommented, hbody]

theorem listingOf_uncommented (main : Block) :
    listingOf state.uncommented main.uncommented = (listingOf state main).uncommented := by
  have hfunctions : state.uncommented.functions =
      state.functions.map fun entry => (entry.1, entry.2.uncommented) := rfl
  have hsetup : state.uncommented.setup = state.setup.uncommented := rfl
  unfold listingOf
  rw [hfunctions, hsetup, nodes_uncommented, nodes_uncommented, Listing.uncommented,
    ← List.map_reverse, List.map_map, List.map_map]
  simp only [Function.comp_def, nodes_uncommented]
  rfl

variable (state) in
theorem conclude_uncommented :
    conclude state.uncommented = (conclude state).map Listing.uncommented := by
  unfold conclude
  rw [closeScope_uncommented]
  cases closeScope state with
  | error stop => rfl
  | ok closed =>
      have hcompiled : closed.uncommented.compiled = closed.compiled := rfl
      have hmain : closed.uncommented.main? = closed.main?.map Block.uncommented := rfl
      simp only [Except.map, bind, Except.bind, hcompiled, hmain]
      cases closed.compiled with
      | false => rfl
      | true =>
          cases closed.main? with
          | none => rfl
          | some main => exact congrArg Except.ok (listingOf_uncommented main)

end control

/-! ## Runs -/

/-- Both lowerings succeed with results that belong together, or both are interrupted for the same
reason, on lines with the same number. -/
inductive EndsOnLine {α β : Type} (R : α → β → Prop) :
    Except Interrupted α → Except Interrupted β → Prop where
  | ok {result : α} {result' : β} (h : R result result') : EndsOnLine R (.ok result) (.ok result')
  | interrupted (halt : Halt) (events events' : List Event) {place? place?' : Option Place}
      (h : place?'.map Place.number = place?.map Place.number) :
      EndsOnLine R (.error ⟨halt, place?, events⟩) (.error ⟨halt, place?', events'⟩)

theorem EndsOnLine.ok_or_interrupted {α β : Type} {R : α → β → Prop}
    {first : Except Interrupted α} {second : Except Interrupted β} (h : EndsOnLine R first second) :
    (∃ result result', first = .ok result ∧ second = .ok result' ∧ R result result') ∨
      ∃ halt events events' place? place?', first = .error ⟨halt, place?, events⟩ ∧
        second = .error ⟨halt, place?', events'⟩ ∧
        place?'.map Place.number = place?.map Place.number := by
  cases h with
  | ok h => exact .inl ⟨_, _, rfl, rfl, h⟩
  | interrupted halt events events' hplace =>
      exact .inr ⟨halt, events, events', _, _, rfl, rfl, hplace⟩

theorem Alike.of_map {α β γ : Type} {R : γ → β → Prop} {f : α → γ} {first : Except Stop α}
    {second : Except Stop β} (h : Alike R (first.map f) second) :
    Alike (fun result => R (f result)) first second := by
  cases first with
  | error stop =>
      cases h with
      | stop halt events events' => exact .stop halt events events'
  | ok result =>
      cases h with
      | ok h => exact .ok h

/-- Lowering statements without the comments among them comes to the same, but for the comments in
the code. -/
theorem steps_uncommented [Interpreter] (predefined : List (String × String))
    {first second : List Located}
    {state state' : State} (hsound : state.Sound) (hnear : state.uncommented.Near state')
    (h : Uncommented first second) :
    EndsOnLine (fun final final' => final.uncommented.Near final')
      (steps predefined state first) (steps predefined state' second) := by
  induction first generalizing second state state' with
  | nil =>
      obtain rfl : second = [] := List.map_eq_nil_iff.mp h
      exact .ok hnear
  | cons located first ih =>
      rw [steps_cons]
      by_cases hcomment : located.statement.isComment = true
      · obtain ⟨place, statement⟩ := located
        cases statement with
        | comment text =>
            obtain ⟨next, hnext, hsame⟩ := step_comment predefined place text hsound
            rw [hnext]
            exact ih (hsound.change (change_of_step hsound hnext)) (hsame ▸ hnear) h
        | _ => cases hcomment
      · have hcode : located.statement.isComment = false := by simpa using hcomment
        rw [Uncommented, List.filter_cons_of_pos (by simpa using hcode), List.map_cons] at h
        obtain ⟨located', second, rfl, hlocated, hrest⟩ := List.map_eq_cons_iff.mp h
        obtain ⟨place, statement⟩ := located
        obtain ⟨place', statement'⟩ := located'
        obtain ⟨hnumber, hstatement⟩ := Prod.mk.inj hlocated
        obtain rfl : statement' = statement := hstatement
        obtain ⟨events, rfl⟩ := hnear
        have halike := step_alike state.uncommented events predefined place place' statement'
        rw [step_uncommented state predefined hcode] at halike
        rw [steps_cons]
        obtain ⟨next, next', hnext, hnext', hnear⟩ | ⟨halt, events₁, events₂, hstop, hstop'⟩ :=
          halike.of_map.ok_or_stop
        · rw [hnext, hnext']
          exact ih (hsound.change (change_of_step hsound hnext)) hnear hrest
        · rw [hstop, hstop']
          exact .interrupted halt events₁ events₂ (congrArg some hnumber)

/-- The listing of statements without their comments is the listing without its comments. -/
theorem lower_uncommented [Interpreter] (predefined : List (String × String))
    {first second : List Located} (h : Uncommented first second) :
    EndsOnLine (fun result result' => result'.1 = result.1.uncommented)
      (lower predefined first) (lower predefined second) := by
  have hsteps := steps_uncommented predefined State.Sound.start (State.Near.refl .start) h
  change EndsOnLine _ _ (steps predefined .start second) at hsteps
  unfold lower
  obtain ⟨state, _, hstate, hstate', events, rfl⟩ |
    ⟨halt, events, events', place?, place?', hstop, hstop', hplace⟩ := hsteps.ok_or_interrupted
  · rw [hstate, hstate']
    dsimp only
    have halike := conclude_alike state.uncommented events
    rw [conclude_uncommented] at halike
    obtain ⟨listing, _, hlisting, hlisting', rfl⟩ | ⟨halt, events₁, events₂, hstop, hstop'⟩ :=
      halike.of_map.ok_or_stop
    · rw [hlisting, hlisting']
      exact .ok rfl
    · rw [hstop, hstop']
      exact .interrupted halt events₁ events₂ rfl
  · rw [hstop, hstop']
    exact .interrupted halt events events' hplace

end Lowering

/-! ## Compilations -/

/-- Why there is no listing, with the number of the line on which it shows. -/
def Rejection.numbered : Rejection → Lowering.Halt × Option Int
  | .failure reason => (.problem reason.problem, reason.place?.map Place.number)
  | .fault reason => (.fault reason, none)

/-- What came of a compilation: the listing, or why there is none and on which line. -/
def Report.ending (report : Report) : Except (Lowering.Halt × Option Int) Listing :=
  report.outcome.mapError Rejection.numbered

section compile

variable [Interpreter] {compiler : Compiler} {source : Source}

theorem ending_of_failure {reason : Failure}
    (h : (parse compiler.handlers source).failure? = some reason) :
    (compiler.compile source).ending = .error (Rejection.failure reason).numbered := by
  rw [Report.ending, Compiler.outcome_of_failure h]
  rfl

theorem ending_of_parsed (h : (parse compiler.handlers source).failure? = none) :
    (compiler.compile source).ending =
      ((Lowering.lower compiler.predefined (parse compiler.handlers source).statements).map
        Prod.fst).mapError fun interrupted => (Compiler.rejection interrupted).numbered := by
  rw [Report.ending, Compiler.outcome_of_parsed h]
  rcases Lowering.lower compiler.predefined (parse compiler.handlers source).statements with
    interrupted | ⟨listing, events⟩ <;> rfl

end compile

theorem Lowering.EndsOnLine.ending_eq {ending ending' : Except Interrupted (Listing × List Event)}
    (h : EndsOnLine (fun result result' => result'.1 = result.1.uncommented) ending ending') :
    (ending'.map Prod.fst).mapError (fun interrupted => (Compiler.rejection interrupted).numbered) =
      ((ending.map Prod.fst).mapError fun interrupted =>
        (Compiler.rejection interrupted).numbered).map Listing.uncommented := by
  cases h with
  | ok h => exact congrArg Except.ok h
  | interrupted halt events events' hplace =>
      refine congrArg Except.error ?_
      cases halt with
      | problem problem => exact congrArg (Prod.mk (Halt.problem problem)) hplace
      | fault fault => rfl

/-- **Comments have no influence on the code.**  Take a source with no line that is too long, and
cut every line off where its comment starts.  Then the compilation comes to the same listing, from
which just the comments are gone, or fails for the same reason on a line with the same number. -/
theorem ending_withoutComments [Interpreter] (compiler : Compiler) {bytes : List UInt8}
    (hfits : ∀ line ∈ Source.split bytes, Source.fits line = true) :
    (compiler.compile (.ofBytes (Source.withoutComments bytes))).ending =
      (compiler.compile (.ofBytes bytes)).ending.map Listing.uncommented := by
  obtain ⟨hstatements, hfailure⟩ := parse_withoutComments compiler.handlers hfits
  cases hparsed : (parse compiler.handlers (.ofBytes bytes)).failure? with
  | some reason =>
      rw [hparsed] at hfailure
      obtain ⟨reason', hparsed', hsame⟩ := Option.map_eq_some_iff.mp hfailure
      obtain ⟨hproblem, hnumber⟩ := Prod.mk.inj hsame
      rw [ending_of_failure hparsed, ending_of_failure hparsed', Rejection.numbered, hproblem,
        hnumber]
      rfl
  | none =>
      rw [hparsed] at hfailure
      rw [ending_of_parsed hparsed, ending_of_parsed (Option.map_eq_none_iff.mp hfailure)]
      exact (Lowering.lower_uncommented compiler.predefined hstatements).ending_eq

/-- A source with comments outside of blocks, among constants, in code, and after statements. -/
def annotated : String :=
  "// outside\nbyte b // one byte\ncompile: // constants\n// inside\nconst N = $(2+1) // three\n" ++
    "end // done\nmain: // code\n  if r1 < r2 // less?\n  r1 = N // the constant\n" ++
    "// at the end\nend\nend // outside again"

/-- A source with an instruction after its code, where none can stand. -/
def overrun : String :=
  "compile:\nmain: // code\nend // of the code\n// outside\nr1 = 2 // too late\n"

theorem annotated_overrun_ending :
    (Source.withoutComments annotated.toUTF8.toList =
        ("\nbyte b \ncompile: \n\nconst N = $(2+1) \nend \nmain: \n  if r1 < r2 \n  r1 = N \n" ++
          "\nend\nend ").toUTF8.toList ∧
      (Compiler.standard.compile
          (.ofBytes (Source.withoutComments annotated.toUTF8.toList))).ending =
        (Compiler.standard.compile (.ofText annotated)).ending.map Listing.uncommented ∧
      (Compiler.standard.compile (.ofText annotated)).ending.toOption.map
          (fun listing => Node.leavesOf listing.setup) =
        some [.instr ".global" ["_start"], .comment " constants", .comment " inside",
          .instr ".equ" ["N", "3"], .comment " three"]) ∧
    (Compiler.standard.compile
        (.ofBytes (Source.withoutComments overrun.toUTF8.toList))).ending.map (fun _ => ()) =
      .error (.problem (.withTexts .outsideBlock ["r1"]), some 5) := by
  have hannotated : ∀ line ∈ Source.split annotated.toUTF8.toList, Source.fits line = true := by
    decide +kernel
  have hoverrun : ∀ line ∈ Source.split overrun.toUTF8.toList, Source.fits line = true := by
    decide +kernel
  refine ⟨⟨by decide +kernel, ending_withoutComments _ hannotated, by decide +kernel⟩, ?_⟩
  rw [ending_withoutComments _ hoverrun]
  decide +kernel

end Shorthand
