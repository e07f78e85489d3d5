import Shorthand.Expression.Execute
import Shorthand.Proofs.Flow.Simulation
import Shorthand.Proofs.Lowering.Acceptance

/-!
# The code of bodies

A flow that is lowered in a body adds its code to the body (`lowers_flow`), whatever constructs are
open around it.  So the listing has for every body the code of the flow that the body is made of,
and by the simulation this code does what the flow says.
-/

namespace Shorthand

open Lowering

namespace Node

@[simp] theorem leavesOf_nil : leavesOf [] = [] := by simp [leavesOf]

@[simp] theorem leavesOf_append (first second : List Node) :
    leavesOf (first ++ second) = leavesOf first ++ leavesOf second := by
  induction first with
  | nil => simp
  | cons node first ih => simp [leavesOf, ih]

@[simp] theorem leavesOf_block (nodes rest : List Node) :
    leavesOf (.block nodes :: rest) = leavesOf nodes ++ leavesOf rest := by
  simp [leavesOf, leaves]

@[simp] theorem leavesOf_ofLeaves (single : List Leaf) : leavesOf (ofLeaves single) = single := by
  induction single with
  | nil => simp [ofLeaves]
  | cons leaf rest ih =>
      have hcons : ofLeaves (leaf :: rest) = .leaf leaf :: ofLeaves rest := rfl
      rw [hcons, leavesOf, leaves, ih, List.singleton_append]

@[simp] theorem leavesOf_leaf (leaf : Leaf) : leavesOf [.leaf leaf] = [leaf] :=
  leavesOf_ofLeaves [leaf]

end Node

namespace Lowering

/-! ## Counting -/

namespace Counters

private theorem lookup_filter_ne {counters : Counters} {key key' : String × Numbered}
    (hne : key' ≠ key) :
    (counters.filter fun entry => entry.1 != key).lookup key' = counters.lookup key' := by
  induction counters with
  | nil => rfl
  | cons entry counters ih =>
      obtain ⟨name, number⟩ := entry
      by_cases hname : name = key
      · subst hname
        have hother : (key' == name) = false := beq_eq_false_iff_ne.mpr hne
        simp [List.lookup_cons, ih, hother]
      · simp [hname, List.lookup_cons, ih]

/-- One more number is given out of one kind, and none of another. -/
theorem count_bump (counters : Counters) (body body' : String) (kind kind' : Numbered) :
    (counters.bump body kind).count body' kind' =
      if (body', kind') = (body, kind) then counters.count body kind + 1
      else counters.count body' kind' := by
  by_cases hkey : (body', kind') = (body, kind)
  · rw [if_pos hkey, count, bump, hkey, List.lookup_cons_self, Option.getD_some]
  · have hbeq : ((body', kind') == (body, kind)) = false := beq_eq_false_iff_ne.mpr hkey
    rw [if_neg hkey, count, bump, List.lookup_cons, hbeq]
    exact congrArg (Option.getD · 0) (lookup_filter_ne hkey)

end Counters

/-! ## Closing a construct -/

variable [Interpreter] {predefined : Constants} {state state' : State} {body : Body}

/-- The frame of a construct after more was put into it. -/
private def filledFrame (opening : Opening) (number : Nat) (first : List Leaf)
    (nodes : List Node) : Frame :=
  { Frame.start opening number first with
    block := (Frame.start opening number first).block.put nodes }

omit [Interpreter] in
private theorem frames_enter_put (opening : Opening) (number : Nat) (first : List Leaf)
    (nodes : List Node) :
    ((body.enter (.start opening number first)).put nodes).frames =
      filledFrame opening number first nodes :: body.frames := rfl

omit [Interpreter] in
/-- A construct that is closed goes to the end of the code around it. -/
private theorem leave_enter_put (opening : Opening) (number : Nat) (first last : List Leaf)
    (nodes : List Node) :
    ((body.enter (.start opening number first)).put nodes).leave
        (filledFrame opening number first nodes) body.frames last =
      body.put [.block (Node.ofLeaves first ++ nodes ++ Node.ofLeaves last)] := by
  have hnodes : (filledFrame opening number first nodes).block.nodes =
      Node.ofLeaves first ++ nodes := by
    simp [filledFrame, Frame.start, Block.empty, Block.nodes, Block.put]
  rw [Body.leave, hnodes]
  rfl

private theorem Change.close_construct {opening : Opening} {number : Nat} {first : List Leaf}
    {nodes : List Node} (hchange : Change predefined state .close state')
    (hscope : state.scope = .body ((body.enter (.start opening number first)).put nodes)) :
    state' = state.inBody (body.put [.block (Node.ofLeaves first ++ nodes ++
      Node.ofLeaves (endingLeaves opening (labelName body.kind.name opening.word number)))]) := by
  cases hchange with
  | closeFrame hscope' hframes =>
      rw [hscope] at hscope'
      cases hscope'
      rw [frames_enter_put] at hframes
      cases hframes
      rw [leave_enter_put]
      simp only [filledFrame, Frame.start, Frame.name, Body.kind_put, Body.kind_enter]
  | closeBlock hnothing hframes =>
      rw [hscope] at hframes
      cases hframes
  | simple hsimple => cases hsimple

private theorem Change.turn_construct {opening : Opening} {number : Nat} {first : List Leaf}
    {nodes : List Node} (hchange : Change predefined state .otherwise state')
    (hscope : state.scope = .body ((body.enter (.start opening number first)).put nodes)) :
    opening = .branch ∧ state' = state.inBody ((body.put [.block (Node.ofLeaves first ++ nodes ++
      Node.ofLeaves [.jump (labelName body.kind.name "else" number),
        .label (falseLabel (labelName body.kind.name "if" number))])]).enter
          (.start .alternative number [])) := by
  cases hchange with
  | otherwise hscope' hframes hopening =>
      rw [hscope] at hscope'
      cases hscope'
      rw [frames_enter_put] at hframes
      cases hframes
      have hbranch : opening = .branch := hopening
      subst hbranch
      rw [leave_enter_put]
      refine ⟨rfl, ?_⟩
      simp only [turningLeaves, filledFrame, Frame.start, Frame.name, Body.kind_put,
        Body.kind_enter, Opening.word]
  | simple hsimple => cases hsimple

/-! ## Lowering a flow -/

/-- What lowering does to a body: leaves are added, so many constructs are counted, and the
constants stay. -/
structure Adds (state : State) (body : Body) (leaves : List Leaf) (branches loops : Nat)
    (state' : State) : Prop where
  constants : state'.symbols.constants = state.symbols.constants
  branches : state'.counters.count body.kind.name .branch =
    state.counters.count body.kind.name .branch + branches
  loops : state'.counters.count body.kind.name .loop =
    state.counters.count body.kind.name .loop + loops
  scope : ∃ nodes, state'.scope = .body (body.put nodes) ∧ Node.leavesOf nodes = leaves

namespace Adds

variable {middle final : State} {leaves leaves' : List Leaf} {b l b' l' : Nat}

omit [Interpreter] in
theorem trans {nodes : List Node} (h : Adds state body leaves b l middle)
    (hnodes : Node.leavesOf nodes = leaves)
    (h' : Adds middle (body.put nodes) leaves' b' l' final) :
    Adds state body (leaves ++ leaves') (b + b') (l + l') final := by
  have hbranches := h'.branches
  have hloops := h'.loops
  rw [Body.kind_put] at hbranches hloops
  refine ⟨h'.constants.trans h.constants, ?_, ?_, ?_⟩
  · rw [hbranches, h.branches, Nat.add_assoc]
  · rw [hloops, h.loops, Nat.add_assoc]
  · obtain ⟨nodes', hscope', hnodes'⟩ := h'.scope
    refine ⟨nodes ++ nodes', ?_, ?_⟩
    · rw [hscope', Body.put_put]
    · rw [Node.leavesOf_append, hnodes, hnodes']

end Adds

/-- How often a construct of the second kind is counted when one of the first kind is opened. -/
private def counted (kind kind' : Numbered) : Nat := if kind' = kind then 1 else 0

omit [Interpreter] in
private theorem count_bump_inBody (body' : Body) (kind kind' : Numbered) :
    ((state.bump body.kind.name kind).inBody body').counters.count body.kind.name kind' =
      state.counters.count body.kind.name kind' + counted kind kind' := by
  have hcount := state.counters.count_bump body.kind.name body.kind.name kind kind'
  unfold counted
  by_cases hkind : kind' = kind
  · subst hkind
    simpa [State.inBody, State.bump] using hcount
  · simpa [State.inBody, State.bump, hkind] using hcount

private theorem adds_construct {opening : Opening} {number : Nat} {first leaves : List Leaf}
    {kind : Numbered} {b l : Nat} {middle final : State}
    (hinner : Adds ((state.bump body.kind.name kind).inBody
      (body.enter (.start opening number first))) (body.enter (.start opening number first)) leaves
      b l middle)
    (hclose : Change predefined middle .close final) :
    Adds state body (first ++ leaves ++
        endingLeaves opening (labelName body.kind.name opening.word number))
      (counted kind .branch + b) (counted kind .loop + l) final := by
  obtain ⟨nodes, hscope, hnodes⟩ := hinner.scope
  have hfinal := hclose.close_construct hscope
  subst hfinal
  have hbranches := hinner.branches
  have hloops := hinner.loops
  rw [Body.kind_enter, count_bump_inBody, Nat.add_assoc] at hbranches hloops
  refine ⟨hinner.constants, hbranches, hloops, _, rfl, ?_⟩
  simp [hnodes]

/-- A conditional with an alternative around what is added to its two parts. -/
private theorem adds_choice {number : Nat} {first leaves leaves' : List Leaf} {b l b' l' : Nat}
    {middle turned last final : State}
    (hinner : Adds ((state.bump body.kind.name .branch).inBody
      (body.enter (.start .branch number first))) (body.enter (.start .branch number first)) leaves
      b l middle)
    (hturn : Change predefined middle .otherwise turned)
    (halternative : ∀ body', turned.scope = .body body' → body'.kind = body.kind →
      Adds turned body' leaves' b' l' last)
    (hclose : Change predefined last .close final) :
    Adds state body (first ++ leaves ++
        [.jump (labelName body.kind.name "else" number),
          .label (falseLabel (labelName body.kind.name "if" number))] ++ leaves' ++
        [.label (labelName body.kind.name "else" number)])
      (1 + b + b') (l + l') final := by
  obtain ⟨nodes, hscope, hnodes⟩ := hinner.scope
  obtain ⟨-, rfl⟩ := hturn.turn_construct hscope
  have hlast := halternative _ rfl (by rw [Body.kind_enter, Body.kind_put])
  obtain ⟨nodes', hscope', hnodes'⟩ := hlast.scope
  have hfinal := hclose.close_construct hscope'
  subst hfinal
  have hbranches := hinner.branches
  have hloops := hinner.loops
  have hbranches' := hlast.branches
  have hloops' := hlast.loops
  rw [Body.kind_enter, count_bump_inBody] at hbranches hloops
  rw [Body.kind_enter, Body.kind_put] at hbranches' hloops'
  refine ⟨hlast.constants.trans hinner.constants, ?_, ?_, ?_⟩
  · calc
      last.counters.count body.kind.name .branch =
          middle.counters.count body.kind.name .branch + b' := hbranches'
      _ = state.counters.count body.kind.name .branch + (1 + b + b') := by
          rw [hbranches, counted, if_pos rfl]
          omega
  · calc
      last.counters.count body.kind.name .loop =
          middle.counters.count body.kind.name .loop + l' := hloops'
      _ = state.counters.count body.kind.name .loop + (l + l') := by
          rw [hloops, counted, if_neg nofun]
          omega
  · refine ⟨_, by rw [State.inBody, Body.put_put], ?_⟩
    simp [hnodes, hnodes', endingLeaves, Opening.word]

/-- What a flow adds to a body in which it is lowered. -/
def AddsFlow (state : State) (body : Body) (flow : Flow) (state' : State) : Prop :=
  flow.IsSelected (selected state.symbols.constants) ∧
    Adds state body
      (flow.code (selected state.symbols.constants) body.kind.name
        (state.counters.count body.kind.name .branch)
        (state.counters.count body.kind.name .loop))
      flow.branches flow.loops state'

private theorem Adds.addsFlow {rest : Flow} {leaves : List Leaf} {b l : Nat} {middle final : State}
    (h : Adds state body leaves b l middle)
    (hrest : ∀ body', middle.scope = .body body' → AddsFlow middle body' rest final) :
    rest.IsSelected (selected state.symbols.constants) ∧
      Adds state body
        (leaves ++ rest.code (selected state.symbols.constants) body.kind.name
          (state.counters.count body.kind.name .branch + b)
          (state.counters.count body.kind.name .loop + l))
        (b + rest.branches) (l + rest.loops) final := by
  obtain ⟨nodes, hscope, hnodes⟩ := h.scope
  obtain ⟨hselected, hadds⟩ := hrest _ hscope
  rw [h.constants] at hselected hadds
  rw [Body.kind_put, h.branches, h.loops] at hadds
  exact ⟨hselected, h.trans hnodes hadds⟩

private theorem adds_simple {statement : Statement} {middle : State}
    (hsimple : statement.isSimple = true) (hscope : state.scope = .body body)
    (hchange : Change predefined state statement middle) :
    ∃ leaf, selected state.symbols.constants statement = some leaf ∧
      Adds state body [leaf] 0 0 middle := by
  cases hchange with
  | simple _ hscope' hleaf =>
      rw [hscope] at hscope'
      cases hscope'
      exact ⟨_, hleaf, rfl, rfl, rfl, _, rfl, Node.leavesOf_leaf _⟩
  | _ => cases hsimple

private theorem adds_declare {declaration : Declaration} {middle : State}
    (hvariable : declaration.isVariable = true) (hscope : state.scope = .body body)
    (hchange : Change predefined state (.declare declaration) middle) :
    Adds state body [] 0 0 middle := by
  cases hchange with
  | reserve _ hentry =>
      exact ⟨rfl, rfl, rfl, [], by rw [Body.put_nil]; exact hscope, Node.leavesOf_nil⟩
  | const => cases hvariable
  | simple hsimple => cases hsimple

private theorem adds_comment {text : String} {middle : State} (hscope : state.scope = .body body)
    (hchange : Change predefined state (.comment text) middle) :
    Adds state body [.comment text] 0 0 middle := by
  cases hchange with
  | commentOutside hscope' =>
      rw [hscope] at hscope'
      cases hscope'
  | commentConstants hscope' =>
      rw [hscope] at hscope'
      cases hscope'
  | commentBody hscope' =>
      rw [hscope] at hscope'
      cases hscope'
      exact ⟨rfl, rfl, rfl, _, rfl, Node.leavesOf_leaf _⟩
  | simple hsimple => cases hsimple

/-- A flow adds its code to the body in which it is lowered. -/
theorem lowers_flow {flow : Flow} (hscope : state.scope = .body body)
    (hrun : Lowers predefined state flow.statements state') :
    AddsFlow state body flow state' := by
  -- the code in a construct is lowered in a body with one more frame, so the body is not fixed
  induction flow generalizing state body state' with
  | done =>
      cases hrun
      exact ⟨trivial, rfl, rfl, rfl, [], by simpa using hscope, Node.leavesOf_nil⟩
  | simple statement rest ih =>
      obtain ⟨middle, hchange, hrest⟩ := Lowers.cons_iff.mp hrun
      obtain ⟨leaf, hleaf, hadds⟩ := adds_simple statement.property hscope hchange
      obtain ⟨mnemonic, operands, rfl⟩ := eq_instr_of_selected hleaf
      obtain ⟨hselected, hlater⟩ := hadds.addsFlow fun body' hscope' => ih hscope' hrest
      refine ⟨⟨⟨mnemonic, operands, hleaf⟩, hselected⟩, ?_⟩
      rw [Flow.code, hleaf]
      simp only [Nat.zero_add, Nat.add_zero] at hlater
      exact hlater
  | declare declaration rest ih =>
      obtain ⟨middle, hchange, hrest⟩ := Lowers.cons_iff.mp hrun
      obtain ⟨hselected, hlater⟩ :=
        (adds_declare declaration.property hscope hchange).addsFlow
          fun body' hscope' => ih hscope' hrest
      simp only [Nat.zero_add, Nat.add_zero] at hlater
      exact ⟨hselected, hlater⟩
  | comment text rest ih =>
      obtain ⟨middle, hchange, hrest⟩ := Lowers.cons_iff.mp hrun
      obtain ⟨hselected, hlater⟩ :=
        (adds_comment hscope hchange).addsFlow fun body' hscope' => ih hscope' hrest
      simp only [Nat.zero_add, Nat.add_zero] at hlater
      exact ⟨hselected, hlater⟩
  | branch cond inner rest ihi ih =>
      obtain ⟨opened, hopen, hrun⟩ := Lowers.cons_iff.mp hrun
      obtain ⟨filled, hinner, hrun⟩ := Lowers.append_iff.mp hrun
      obtain ⟨closed, hclose, hrest⟩ := Lowers.cons_iff.mp hrun
      cases hopen with
      | simple hsimple => cases hsimple
      | branch hscope' hnumber =>
          rw [hscope] at hscope'
          cases hscope'
          obtain ⟨hselected, hadds⟩ := ihi rfl hinner
          rw [Body.kind_enter, count_bump_inBody, count_bump_inBody] at hadds
          obtain ⟨hselected', hlater⟩ :=
            (adds_construct hadds hclose).addsFlow fun body' hscope' => ih hscope' hrest
          refine ⟨⟨hselected, hselected'⟩, ?_⟩
          rw [hnumber] at hlater
          simpa [Flow.code, branchCode, counted, State.number, endingLeaves, Opening.word,
            Word.text, Flow.branches, Flow.loops, Nat.add_assoc] using hlater
  | choice cond inner alternative rest ihi iha ih =>
      obtain ⟨opened, hopen, hrun⟩ := Lowers.cons_iff.mp hrun
      obtain ⟨filled, hinner, hrun⟩ := Lowers.append_iff.mp hrun
      obtain ⟨turned, hturn, hrun⟩ := Lowers.cons_iff.mp hrun
      obtain ⟨last, halternative, hrun⟩ := Lowers.append_iff.mp hrun
      obtain ⟨closed, hclose, hrest⟩ := Lowers.cons_iff.mp hrun
      cases hopen with
      | simple hsimple => cases hsimple
      | branch hscope' hnumber =>
          rw [hscope] at hscope'
          cases hscope'
          obtain ⟨hselected, hadds⟩ := ihi rfl hinner
          obtain ⟨nodes, hfilled, -⟩ := hadds.scope
          obtain ⟨-, rfl⟩ := hturn.turn_construct hfilled
          obtain ⟨hselected', hadds'⟩ := iha rfl halternative
          -- the alternative is numbered after what stands before the turn
          have hbranches := hadds.branches
          have hloops := hadds.loops
          have hconstants := hadds.constants
          rw [Body.kind_enter, count_bump_inBody] at hbranches hloops
          rw [State.symbols_inBody, State.symbols_bump] at hconstants
          rw [State.symbols_inBody, hconstants] at hselected' hadds'
          rw [State.counters_inBody, Body.kind_enter, Body.kind_put, hbranches, hloops] at hadds'
          rw [Body.kind_enter, count_bump_inBody, count_bump_inBody] at hadds
          -- the whole conditional, and then what comes after it
          have hchoice := adds_choice hadds hturn (fun body' hscope' _ => by
            cases hscope'
            exact hadds') hclose
          obtain ⟨hselected'', hlater⟩ :=
            hchoice.addsFlow fun body' hscope' => ih hscope' hrest
          refine ⟨⟨hselected, hselected', hselected''⟩, ?_⟩
          rw [hnumber] at hlater
          simpa [Flow.code, choiceCode, counted, State.number, Word.text, Flow.branches,
            Flow.loops, Nat.add_assoc] using hlater
  | loop cond? inner rest ihi ih =>
      obtain ⟨opened, hopen, hrun⟩ := Lowers.cons_iff.mp hrun
      obtain ⟨filled, hinner, hrun⟩ := Lowers.append_iff.mp hrun
      obtain ⟨closed, hclose, hrest⟩ := Lowers.cons_iff.mp hrun
      cases hopen with
      | simple hsimple => cases hsimple
      | loop hscope' hnumber =>
          rw [hscope] at hscope'
          cases hscope'
          obtain ⟨hselected, hadds⟩ := ihi rfl hinner
          rw [Body.kind_enter, count_bump_inBody, count_bump_inBody] at hadds
          obtain ⟨hselected', hlater⟩ :=
            (adds_construct hadds hclose).addsFlow fun body' hscope' => ih hscope' hrest
          refine ⟨⟨hselected, hselected'⟩, ?_⟩
          rw [hnumber] at hlater
          cases cond? with
          | none =>
              simpa [Flow.code, loopCode, counted, State.number, endingLeaves, Opening.word,
                Word.text, Flow.branches, Flow.loops, Nat.add_assoc, loopOpening,
                loopStart] using hlater
          | some cond =>
              simpa [Flow.code, loopCode, counted, State.number, endingLeaves, Opening.word,
                Word.text, Flow.branches, Flow.loops, Nat.add_assoc, loopOpening,
                loopStart] using hlater

/-! ## Bodies in a run -/

/-- The constants that are defined after statements. -/
def constantsAfter (predefined : Constants) (statements : List Statement) : Constants :=
  (statements.flatMap (Statement.expand predefined)).foldl Statement.define []

/-- A run does to the constants what its statements say. -/
theorem Lowers.constants {statements : List Statement}
    (h : Lowers predefined state statements state') :
    state'.symbols.constants =
      (statements.flatMap (Statement.expand predefined)).foldl Statement.define
        state.symbols.constants := by
  induction h with
  | done state => rfl
  | step hchange _ ih =>
      rw [ih, hchange.constants.2, List.flatMap_cons, List.foldl_append]

/-- A run to a state in which no construct is open reads its statements to a good end. -/
theorem Lowers.accepts {statements : List Statement}
    (h : Lowers predefined state statements state') (hframes : state'.scope.frames = []) :
    state.scope.shape.Accepts statements := by
  induction h with
  | done state => exact (Scope.isLevel_shape state.scope).mpr hframes
  | step hchange _ ih => exact ⟨_, hchange.shape, ih hframes⟩

end Lowering

/-- What may follow on the flow of a body: nothing, the end of the block, or another block. -/
def EndsBody : List Statement → Prop
  | [] | .close :: _ | .block _ _ :: _ => True
  | _ => False

/-- What is left of a program at the beginning of a body starts with the flow of the body. -/
theorem exists_flow {statements : List Statement} (h : (Shape.body []).Accepts statements) :
    ∃ (flow : Flow) (after : List Statement),
      statements = flow.statements ++ after ∧ EndsBody after := by
  cases Shape.completes_of_accepts h with
  | stop hcontent hlevel =>
      obtain ⟨flow, rfl⟩ := hcontent
      exact ⟨flow, [], (List.append_nil _).symm, trivial⟩
  | block hcontent hlevel hrest =>
      obtain ⟨flow, rfl⟩ := hcontent
      exact ⟨flow, _, rfl, trivial⟩
  | close hcontent hshape hrest =>
      obtain ⟨flow, rfl⟩ := hcontent
      exact ⟨flow, _, rfl, trivial⟩
  | turn hcontent hshape hrest => cases hshape

namespace Lowering

variable [Interpreter]

/-- The code of a body is finished where its flow ends, and kept from then on. -/
theorem finished?_of_endsBody {after : List Statement} (hsound : state.Sound)
    (hscope : state.scope = .body body) (hframes : body.frames = []) (hends : EndsBody after)
    (hrun : Lowers predefined state after state') :
    state'.closed.finished? body.kind = some body.block := by
  have hclosed := State.finished?_closed_body hscope
  cases hrun with
  | done => exact hclosed
  | @step _ middle _ statement rest hchange hrest =>
      -- only the end of a block or another block can come next, and both file the body
      have hfinished : middle.finished? body.kind = some body.block := by
        cases hchange with
        | compile => exact hclosed
        | body => exact hclosed
        | closeBlock => exact hclosed
        | closeFrame hscope' hframes' =>
            rw [hscope] at hscope'
            cases hscope'
            rw [hframes] at hframes'
            cases hframes'
        | simple hsimple =>
            cases statement with
            | block | close => cases hsimple
            | _ => cases hends
        | _ => cases hends
      have hmiddle := hsound.change hchange
      exact (hrest.sound hmiddle).finished?_closed (hrest.finished? hmiddle hfinished)

/-- Opening a body leaves everything else as it was closed, and starts with empty code. -/
theorem Change.eq_of_head {kind : BodyKind} {colon : Bool}
    (hchange : Change predefined state (.block kind.head colon) state') :
    ∃ events, state' = (state.closed.withEvents events).inBody ⟨kind, .empty, []⟩ := by
  generalize hstatement : Statement.block kind.head colon = statement at hchange
  cases hchange with
  | compile => cases kind <;> cases hstatement
  | @body kind' =>
      have hkind : kind = kind' := by
        cases kind <;> cases kind' <;> cases hstatement <;> rfl
      subst hkind
      exact ⟨_, rfl⟩
  | simple hsimple =>
      subst hstatement
      cases hsimple
  | _ => cases hstatement

/-- The listing has for a body the code of its flow, numbered from the state on in which the body
is opened. -/
theorem listing_block {statements : List Located} {listing : Listing} {events : List Event}
    {kind : BodyKind} {colon : Bool} {before after : List Statement} {flow : Flow}
    (hlower : lower predefined statements = .ok (listing, events))
    (hsplit : statements.map Located.statement =
      before ++ .block kind.head colon :: (flow.statements ++ after))
    (hends : EndsBody after) :
    ∃ nodes first, Lowers predefined .start before first ∧ listing.body? kind = some nodes ∧
      flow.IsSelected (selected (constantsAfter predefined before)) ∧
      Node.leavesOf nodes =
        flow.code (selected (constantsAfter predefined before)) kind.name
          (first.counters.count kind.name .branch) (first.counters.count kind.name .loop) := by
  obtain ⟨final, hrun, hconclude⟩ := lowers_of_lower hlower
  obtain ⟨-, -, main, hmain, rfl⟩ := conclude_ok_iff.mp hconclude
  rw [hsplit] at hrun
  obtain ⟨first, hbefore, hrun⟩ := Lowers.append_iff.mp hrun
  obtain ⟨opened, hopen, hrun⟩ := Lowers.cons_iff.mp hrun
  obtain ⟨filled, hflow, hafter⟩ := Lowers.append_iff.mp hrun
  -- no body that was filed before is touched by what comes later
  have hsound := hbefore.sound State.Sound.start
  have hfilledSound := hflow.sound (hsound.change hopen)
  have hfinalSound := (hafter.sound hfilledSound).closed
  -- the instructions of the body are selected with the constants defined before it
  obtain ⟨doubts, rfl⟩ := hopen.eq_of_head
  have hconstants : ((first.closed.withEvents doubts).inBody
      ⟨kind, .empty, []⟩).symbols.constants = constantsAfter predefined before := by
    rw [State.symbols_inBody]
    exact (congrArg Symbols.constants first.symbols_closed).trans hbefore.constants
  have hcounters : ((first.closed.withEvents doubts).inBody
      ⟨kind, .empty, []⟩).counters = first.counters := first.counters_closed
  obtain ⟨hselected, hadds⟩ := lowers_flow rfl hflow
  rw [hconstants] at hselected hadds
  rw [hcounters] at hadds
  obtain ⟨nodes, hscope, hnodes⟩ := hadds.scope
  have hfinished := finished?_of_endsBody hfilledSound hscope rfl hends hafter
  have hbody := body?_listingOf hfinalSound hmain hfinished
  refine ⟨nodes, first, hbefore, ?_, hselected, hnodes⟩
  simpa [Body.put, Block.put, Block.nodes, Block.empty] using hbody

private theorem listing_body {statements : List Located} {listing : Listing} {events : List Event}
    {kind : BodyKind} {colon : Bool} {before after : List Statement} {flow : Flow}
    (hlower : lower predefined statements = .ok (listing, events))
    (hsplit : statements.map Located.statement =
      before ++ .block kind.head colon :: (flow.statements ++ after))
    (hends : EndsBody after) :
    ∃ nodes branches loops, listing.body? kind = some nodes ∧
      flow.IsSelected (selected (constantsAfter predefined before)) ∧
      Node.leavesOf nodes =
        flow.code (selected (constantsAfter predefined before)) kind.name branches loops := by
  obtain ⟨nodes, first, -, hbody⟩ := listing_block hlower hsplit hends
  exact ⟨nodes, _, _, hbody⟩

end Lowering

/-- **The code of a body does what its statements say.**  In a program that is lowered, every body
is made of a flow, and whatever the instructions do to the states of a machine, the flow takes a
state to another one exactly if the machine gets there with the code of the body, from its first
line to its end. -/
theorem listing_body_runs_flow [Interpreter] {predefined : Constants} {statements : List Located}
    {listing : Listing} {events : List Event} {kind : BodyKind} {colon : Bool}
    {before rest : List Statement}
    (hlower : lower predefined statements = .ok (listing, events))
    (hsplit : statements.map Located.statement = before ++ .block kind.head colon :: rest) :
    ∃ nodes, listing.body? kind = some nodes ∧
      (∃ (flow : Flow) (after : List Statement),
        rest = flow.statements ++ after ∧ EndsBody after) ∧
      ∀ (flow : Flow) (after : List Statement), rest = flow.statements ++ after → EndsBody after →
        ∀ (σ : Type*) (M : Interpretation σ) (s s' : σ),
          flow.Runs M (selected (constantsAfter predefined before)) s s' ↔
            ∃ trace, Run M (Node.leavesOf nodes) ⟨.line 0, s⟩ trace
              ⟨.line (Node.leavesOf nodes).length, s'⟩ := by
  have hexists : ∃ (flow : Flow) (after : List Statement),
      rest = flow.statements ++ after ∧ EndsBody after := by
    obtain ⟨final, hrun, hconclude⟩ := lowers_of_lower hlower
    have hframes := (conclude_ok_iff.mp hconclude).1
    rw [hsplit] at hrun
    obtain ⟨first, hbefore, hrun⟩ := Lowers.append_iff.mp hrun
    obtain ⟨opened, hopen, hrun⟩ := Lowers.cons_iff.mp hrun
    obtain ⟨doubts, rfl⟩ := hopen.eq_of_head
    exact exists_flow (hrun.accepts hframes)
  obtain ⟨flow, after, rfl, hends⟩ := hexists
  -- the body in the listing does not depend on how the rest is split into a flow and an end
  obtain ⟨nodes, -, -, hnodes, -⟩ := listing_body hlower hsplit hends
  refine ⟨nodes, hnodes, ⟨flow, after, rfl, hends⟩, ?_⟩
  intro flow' after' hrest hends' σ M s s'
  rw [hrest] at hsplit
  obtain ⟨nodes', branches, loops, hnodes', hselected, hcode⟩ := listing_body hlower hsplit hends'
  rw [hnodes] at hnodes'
  cases hnodes'
  rw [hcode]
  refine runs_iff_run hselected ?_ branches loops s s'
  -- a selected instruction is no label
  intro statement leaf hleaf
  obtain ⟨mnemonic, operands, rfl⟩ := eq_instr_of_selected hleaf
  rfl

/-- A loop with a conditional in it. -/
def countdownFlow : Flow :=
  .loop (some (.both (.compare "r1" .gt "r0") (.compare "r2" .ne "r0")))
    (.choice (.compare "r1" .eq "r2")
      (.simple ⟨.operate "r1" "r1" .sub (.immediate (.number "1")), rfl⟩ .done)
      (.comment " not yet" (.simple ⟨.operate "r2" "r2" .sub (.register "r1"), rfl⟩ .done))
      .done)
    .done

/-- A program whose body is the loop. -/
def countdown : List Located :=
  (.block .compile true :: .block .main true :: (countdownFlow.statements ++ [.close])).map
    fun statement => ⟨⟨1, ""⟩, statement⟩

theorem countdown_runs_flow :
    ∃ listing events nodes, lower [] countdown = .ok (listing, events) ∧
      listing.body? .main = some nodes ∧
      ∀ (σ : Type) (M : Interpretation σ) (s s' : σ),
        countdownFlow.Runs M (selected []) s s' ↔
          ∃ trace, Run M (Node.leavesOf nodes) ⟨.line 0, s⟩ trace
            ⟨.line (Node.leavesOf nodes).length, s'⟩ := by
  have hlower : ∃ listing events, lower [] countdown = .ok (listing, events) := ⟨_, _, rfl⟩
  obtain ⟨listing, events, hlower⟩ := hlower
  have hsplit : countdown.map Located.statement =
      [.block .compile true] ++
        .block BodyKind.main.head true :: (countdownFlow.statements ++ [.close]) := rfl
  obtain ⟨nodes, hnodes, -, hruns⟩ := listing_body_runs_flow hlower hsplit
  exact ⟨listing, events, nodes, hlower, hnodes, hruns countdownFlow [.close] rfl trivial⟩

end Shorthand
