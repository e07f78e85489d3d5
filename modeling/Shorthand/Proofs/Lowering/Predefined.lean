import Shorthand.Compiler
import Shorthand.Expression.Execute
import Shorthand.Proofs.Lowering.Acceptance
import Shorthand.Proofs.Lowering.Events
import Shorthand.Proofs.Syntax.Insertion
import Shorthand.Proofs.Syntax.Parsed

/-!
# Constants that are given to the compiler

A compiler that is given constants defines them when the first block of constants is opened.  The
same constants can be written into this block, as its first lines, and the result is the same.

The definitions of given constants are made before the scope is entered, and those in the block
after it (`defineConstant_within`), so the two runs meet only behind the last definition
(`openCompile_steps_alike`).  Up to the block they take the same steps (`steps_predefined`), and
after it their states differ in the events only, as the lines that follow have other numbers.
`result_predefine_eq` adds that the lines of the definitions are read as the constants.
-/

namespace Shorthand

open Lowering

namespace Lowering

/-! ## Defining constants in a scope -/

/-- The state with another scope. -/
def State.within (state : State) (scope : Scope) : State := { state with scope := scope }

section within

variable [Interpreter] (state : State) (scope : Scope)

/-- The result of a computation, with the state after it in another scope. -/
def Scope.carry {α : Type} (scope : Scope) (result : α × State) : α × State :=
  (result.1, result.2.within scope)

theorem evaluate_within (text : String) :
    (state.within scope).evaluate text = scope.carry (state.evaluate text) := by
  have hsymbols : (state.within scope).symbols = state.symbols := rfl
  simp only [State.evaluate, Scope.carry, hsymbols]
  rfl

theorem expression_within (text : String) :
    expression (state.within scope) text = (expression state text).map scope.carry := by
  unfold expression
  dsimp only
  rw [evaluate_within]
  rcases state.evaluate (expressionBody text) with ⟨_ | value, state'⟩ <;> rfl

theorem constantText_within (value : String) :
    constantText (state.within scope) value = (constantText state value).map scope.carry := by
  unfold constantText
  split
  · exact expression_within state scope value
  · rfl

omit [Interpreter] in
theorem addSetup_within (leaves : List Leaf) :
    (state.within scope).addSetup leaves =
      (state.addSetup leaves).map (State.within · scope) := by
  have hsetup : (state.within scope).setup = state.setup := rfl
  unfold State.addSetup
  rw [hsetup]
  cases state.setup.addLeaves leaves <;> rfl

theorem defineConstant_within (name value : String) :
    defineConstant (state.within scope) name value =
      (defineConstant state name value).map (State.within · scope) := by
  rw [defineConstant_eq, defineConstant_eq, constantText_within]
  rcases constantText state value with stop | ⟨text, state'⟩
  · rfl
  have hadd := addSetup_within state' scope [.instr ".equ" [name, text]]
  simp only [Except.map, bind, Except.bind, Scope.carry] at hadd ⊢
  rw [hadd]
  cases state'.addSetup [.instr ".equ" [name, text]] <;> rfl

end within

variable [Interpreter] {predefined : List (String × String)} {state : State}

/-- Statements that define constants define them in order. -/
theorem steps_declarations (predefined : List (String × String)) (state : State)
    {located : List Located} (rest : List Located) (defined : List (String × String))
    (hsame : located.map Located.statement = declarations defined) :
    ∃ place?, steps predefined (state.within .compile) (located ++ rest) =
      match defineConstants state defined with
      | .ok state => steps predefined (state.within .compile) rest
      | .error stop => .error ⟨stop.halt, place?, stop.events⟩ := by
  induction defined generalizing located state with
  | nil =>
      obtain rfl : located = [] := List.map_eq_nil_iff.mp hsame
      exact ⟨none, rfl⟩
  | cons entry defined ih =>
      obtain ⟨first, located, rfl, hfirst, hlocated⟩ := List.map_eq_cons_iff.mp hsame
      obtain ⟨place, statement⟩ := first
      obtain rfl : statement = .declare (.const entry.1 entry.2) := hfirst
      have hstep : step predefined (state.within .compile)
          ⟨place, .declare (.const entry.1 entry.2)⟩ =
            (defineConstant state entry.1 entry.2).map (State.within · .compile) :=
        defineConstant_within state .compile entry.1 entry.2
      rw [List.cons_append, steps_cons, hstep, defineConstants]
      cases defineConstant state entry.1 entry.2 with
      | error stop => exact ⟨some place, rfl⟩
      | ok state => exact ih state hlocated

/-! ## Opening the block of constants -/

theorem openCompile_of_compiled (given : List (String × String)) (h : state.compiled = true) :
    openCompile given state = state.refuse (.plain .compileDuplicate) :=
  if_pos h

theorem openCompile_of_new (given : List (String × String)) (h : ¬state.compiled = true) :
    openCompile given state =
      (defineConstants { state with compiled := true } given).map (State.within · .compile) := by
  unfold openCompile
  rw [if_neg h]
  cases defineConstants { state with compiled := true } given <;> rfl

theorem step_compile (given : List (String × String)) (place : Place) (state : State)
    (colon : Bool) :
    step given state ⟨place, .block .compile colon⟩ = closeScope state >>= openCompile given :=
  rfl

/-! ## Runs with constants that are given before -/

/-- The constants that are given matter only when the block of constants is opened. -/
theorem step_predefined {predefined' : List (String × String)} {located : Located}
    (h : state.compiled = true ∨ located.statement.head? ≠ some .compile) :
    step predefined state located = step predefined' state located := by
  obtain ⟨place, statement⟩ := located
  cases statement with
  | block head colon =>
      cases head with
      | main | function name => rfl
      | compile =>
          -- a second block of constants is refused before any of them is defined
          have hcompiled : state.closed.compiled = true :=
            state.compiled_closed.trans (h.resolve_right (absurd rfl))
          rw [step_compile, step_compile]
          by_cases hframes : state.scope.frames = []
          · rw [closeScope_eq hframes]
            exact (openCompile_of_compiled predefined hcompiled).trans
              (openCompile_of_compiled predefined' hcompiled).symm
          · obtain ⟨stop, hstop⟩ := closeScope_error hframes
            rw [hstop]
            rfl
  | _ => rfl

theorem steps_predefined (predefined' : List (String × String)) {located : List Located}
    (hsound : state.Sound)
    (h : state.compiled = true ∨
      .compile ∉ (located.map Located.statement).filterMap Statement.head?) :
    steps predefined state located = steps predefined' state located := by
  induction located generalizing state with
  | nil => rfl
  | cons located rest ih =>
      have hstep : step predefined state located = step predefined' state located := by
        refine step_predefined (h.imp_right fun hnone heq => hnone ?_)
        simp [heq]
      rw [steps_cons, steps_cons, hstep]
      cases hresult : step predefined' state located with
      | error stop => rfl
      | ok state' =>
          have hchange := change_of_step hsound hresult
          refine ih (hsound.change hchange) ?_
          refine h.imp (fun hcompiled => ?_) fun hnone hmem => hnone ?_
          · exact (hchange.opened.2 .compile).mpr (.inl hcompiled)
          · obtain ⟨statement, hstatement, hhead⟩ := List.mem_filterMap.mp hmem
            exact List.mem_filterMap.mpr ⟨statement, List.mem_cons_of_mem _ hstatement, hhead⟩

/-- Opening the block of constants with constants that are given, and opening it without them and
defining them by statements, ends alike, and so does what follows. -/
theorem openCompile_steps_alike {defined : List (String × String)} {place place' : Place}
    {rest constants rest' : List Located} (state : State) (events : List Event)
    (hopened : ∀ next, openCompile defined state = .ok next → next.Sound ∧ next.compiled = true)
    (hconstants : constants.map Located.statement = declarations defined)
    (hrest : rest.map Located.statement = rest'.map Located.statement) :
    EndsAlike State.Near
      (match openCompile defined state with
        | .ok next => steps defined next rest
        | .error stop => .error ⟨stop.halt, some place, stop.events⟩)
      (match openCompile [] (state.withEvents events) with
        | .ok next => steps [] next (constants ++ rest')
        | .error stop => .error ⟨stop.halt, some place', stop.events⟩) := by
  by_cases hcompiled : state.compiled = true
  · have hcompiled' : (state.withEvents events).compiled = true := hcompiled
    rw [openCompile_of_compiled defined hcompiled, openCompile_of_compiled [] hcompiled']
    exact .interrupted _ _ _ _ _
  · have hnew : ¬(state.withEvents events).compiled = true := hcompiled
    rw [openCompile_of_new defined hcompiled] at hopened ⊢
    rw [openCompile_of_new [] hnew]
    obtain ⟨place?, hsteps⟩ := steps_declarations []
      ({ state with compiled := true }.withEvents events) rest' defined hconstants
    change EndsAlike State.Near _ (steps [] (({ state with compiled := true }.withEvents
      events).within .compile) (constants ++ rest'))
    rw [hsteps]
    obtain ⟨next, _, hnext, hnext', events', rfl⟩ | ⟨halt, events₁, events₂, hstop, hstop'⟩ :=
      (defineConstants_alike { state with compiled := true } events defined).ok_or_stop
    · rw [hnext] at hopened ⊢
      rw [hnext']
      obtain ⟨hsound, hcompiled⟩ := hopened (next.within .compile) rfl
      change EndsAlike State.Near (steps defined (next.within .compile) rest) _
      rw [steps_predefined [] hsound (.inl hcompiled)]
      exact steps_alike [] hrest ⟨events', rfl⟩
    · rw [hstop, hstop']
      exact .interrupted halt _ _ events₁ events₂

theorem steps_compile_alike {defined : List (String × String)} {colon : Bool}
    {first first' : Located} {rest constants rest' : List Located} {state state' : State}
    (hsound : state.Sound) (hnear : state.Near state')
    (hfirst : first.statement = .block .compile colon)
    (hfirst' : first'.statement = .block .compile colon)
    (hconstants : constants.map Located.statement = declarations defined)
    (hrest : rest.map Located.statement = rest'.map Located.statement) :
    EndsAlike State.Near (steps defined state (first :: rest))
      (steps [] state' (first' :: (constants ++ rest'))) := by
  obtain ⟨events, rfl⟩ := hnear
  obtain ⟨place, statement⟩ := first
  obtain ⟨place', statement'⟩ := first'
  obtain rfl : statement = .block .compile colon := hfirst
  obtain rfl : statement' = .block .compile colon := hfirst'
  have hopened : ∀ next, step defined state ⟨place, .block .compile colon⟩ = .ok next →
      next.Sound ∧ next.compiled = true := by
    intro next hnext
    have hchange := change_of_step hsound hnext
    exact ⟨hsound.change hchange, (hchange.opened.2 .compile).mpr (.inr rfl)⟩
  rw [step_compile] at hopened
  rw [steps_cons, steps_cons, step_compile, step_compile]
  obtain ⟨closed, _, hclosed, hclosed', events', rfl⟩ | ⟨halt, events₁, events₂, hstop, hstop'⟩ :=
    (closeScope_alike state events).ok_or_stop
  · rw [hclosed] at hopened ⊢
    rw [hclosed']
    exact openCompile_steps_alike closed events' hopened hconstants hrest
  · rw [hstop, hstop']
    exact .interrupted halt _ _ events₁ events₂

theorem steps_append (predefined : List (String × String)) (state : State)
    (first second : List Located) :
    steps predefined state (first ++ second) =
      match steps predefined state first with
      | .ok state => steps predefined state second
      | .error interrupted => .error interrupted := by
  induction first generalizing state with
  | nil => rfl
  | cons located first ih =>
      rw [List.cons_append, steps_cons, steps_cons]
      cases step predefined state located with
      | error stop => rfl
      | ok state => exact ih state

/-- Giving constants and defining them at the start of the first block of constants come to the same
listing, or fail for the same reason. -/
theorem lower_predefined_alike {defined : List (String × String)} {first second : List Located}
    {before after : List Statement} {colon : Bool}
    (hfirst : first.map Located.statement = before ++ .block .compile colon :: after)
    (hsecond : second.map Located.statement =
      before ++ .block .compile colon :: (declarations defined ++ after))
    (hnone : .compile ∉ before.filterMap Statement.head?) :
    EndsAlike (fun result result' => result'.1 = result.1) (lower defined first)
      (lower [] second) := by
  obtain ⟨front, back, rfl, hfront, hback⟩ := List.map_eq_append_iff.mp hfirst
  obtain ⟨opening, rest, rfl, hopening, hrest⟩ := List.map_eq_cons_iff.mp hback
  obtain ⟨front', back', rfl, hfront', hback'⟩ := List.map_eq_append_iff.mp hsecond
  obtain ⟨opening', more, rfl, hopening', hmore⟩ := List.map_eq_cons_iff.mp hback'
  obtain ⟨constants, rest', rfl, hconstants, hrest'⟩ := List.map_eq_append_iff.mp hmore
  refine lower_alike ?_
  have hsound : ∀ state, steps [] .start front = .ok state → state.Sound :=
    fun state hstate => (lowers_of_steps State.Sound.start hstate).sound State.Sound.start
  rw [steps_append, steps_append,
    steps_predefined [] State.Sound.start (.inr (by rwa [hfront]))]
  obtain ⟨state, state', hstate, hstate', hnear⟩ |
    ⟨halt, place?, place?', events, events', hstop, hstop'⟩ :=
    (steps_alike [] (hfront.trans hfront'.symm) (State.Near.refl .start)).ok_or_interrupted
  · rw [hstate, hstate']
    exact steps_compile_alike (hsound state hstate) hnear hopening hopening' hconstants
      (hrest.trans hrest'.symm)
  · rw [hstop, hstop']
    exact .interrupted halt place? place?' events events'

end Lowering

/-! ## Compilations -/

/-- Why there is no listing, without the line on which it shows. -/
def Rejection.halt : Rejection → Halt
  | .failure reason => .problem reason.problem
  | .fault reason => .fault reason

/-- What came of a compilation, without the line on which a failure shows. -/
def Report.result (report : Report) : Except Halt Listing := report.outcome.mapError Rejection.halt

section compile

variable [Interpreter] {compiler : Compiler} {source : Source}

theorem result_of_problem {problem : Problem}
    (h : (parse compiler.handlers source).failure?.map Failure.problem = some problem) :
    (compiler.compile source).result = .error (.problem problem) := by
  obtain ⟨failure, hfailure, rfl⟩ := Option.map_eq_some_iff.mp h
  rw [Report.result, Compiler.outcome_of_failure hfailure]
  rfl

theorem result_of_parsed (h : (parse compiler.handlers source).failure? = none) :
    (compiler.compile source).result =
      ((lower compiler.predefined (parse compiler.handlers source).statements).map
        Prod.fst).mapError Interrupted.halt := by
  rw [Report.result, Compiler.outcome_of_parsed h]
  rcases lower compiler.predefined (parse compiler.handlers source).statements with
    ⟨halt, place?, events⟩ | ⟨listing, events⟩
  · cases halt <;> rfl
  · rfl

end compile

theorem Lowering.EndsAlike.listing_eq {ending ending' : Except Interrupted (Listing × List Event)}
    (h : EndsAlike (fun result result' => result'.1 = result.1) ending ending') :
    (ending.map Prod.fst).mapError Interrupted.halt =
      (ending'.map Prod.fst).mapError Interrupted.halt := by
  cases h with
  | ok h => exact congrArg Except.ok h.symm
  | interrupted => rfl

theorem foldl_predefine (compiler : Compiler) (defined : List (String × String)) :
    defined.foldl (fun compiler entry => compiler.predefine entry.1 entry.2) compiler =
      { compiler with predefined := compiler.predefined ++ defined } := by
  induction defined generalizing compiler with
  | nil => simp
  | cons entry defined ih =>
      rw [List.foldl_cons, ih, Compiler.predefine, List.append_assoc]
      rfl

/-- The lines that define constants are read as their declarations. -/
theorem readLines_constantLine {defined : List (String × String)}
    (hwell : ∀ entry ∈ defined, (Declaration.const entry.1 entry.2).WellFormed) :
    readLines Handler.all (defined.map fun entry =>
      Source.lineText (constantLine entry.1 entry.2).toUTF8.toList) =
        (declarations defined, none) := by
  induction defined with
  | nil => rfl
  | cons entry defined ih =>
      obtain ⟨hentry, hdefined⟩ := List.forall_mem_cons.mp hwell
      rw [List.map_cons, readLines, lineText_constantLine hentry, trim_constantLine hentry,
        parseLine_constantLine hentry]
      dsimp only
      rw [ih hdefined]
      rfl

/-- **Constants that are given are the first ones of the block of constants.**  Take a source in
which the first block of constants is opened by a line of its own, and write lines that define some
constants after this line.  Then compiling the source with these constants given beforehand, and
compiling the longer source without them, come to the same listing, or fail for the same reason. -/
theorem result_predefine_eq [Interpreter] {bytes bytes' line : List UInt8}
    {before after : List (List UInt8)} {defined : List (String × String)}
    (hsplit : Source.split bytes = before ++ line :: after)
    (hsplit' : Source.split bytes' = before ++ line ::
      ((defined.map fun entry => (constantLine entry.1 entry.2).toUTF8.toList) ++ after))
    (hline : Text.trim (Source.lineText line) = "compile:")
    (hfirst : .compile ∉ ((parse Handler.all ⟨before.map Source.lineText, none⟩).statements.map
      Located.statement).filterMap Statement.head?)
    (hwell : ∀ entry ∈ defined, (Declaration.const entry.1 entry.2).WellFormed)
    (hfits : ∀ entry ∈ defined,
      Source.fits (constantLine entry.1 entry.2).toUTF8.toList = true) :
    ((defined.foldl (fun compiler entry => compiler.predefine entry.1 entry.2)
        Compiler.standard).compile (.ofBytes bytes)).result =
      (Compiler.standard.compile (.ofBytes bytes')).result := by
  rw [foldl_predefine]
  obtain ⟨rest, ending?, hbytes, hbytes'⟩ | ⟨hbytes, hending⟩ :=
    Source.ofBytes_insert hsplit hsplit' (List.forall_mem_map.mpr hfits)
  · rw [hbytes, hbytes']
    have hopening : parseLine Handler.all (Text.trim (Source.lineText line)) =
        .ok [.block .compile true] := by
      rw [hline]
      decide +kernel
    have hconstants : readLines Handler.all
        ((defined.map fun entry => (constantLine entry.1 entry.2).toUTF8.toList).map
          Source.lineText) = (declarations defined, none) := by
      rw [List.map_map]
      exact readLines_constantLine hwell
    obtain ⟨problem, hproblem, hproblem'⟩ | ⟨hparsed, hparsed', rest', hsame, hsame'⟩ :=
      parse_insert hopening hconstants
    · exact (result_of_problem hproblem).trans (result_of_problem hproblem').symm
    · rw [result_of_parsed hparsed, result_of_parsed hparsed']
      exact (lower_predefined_alike hsame hsame' hfirst).listing_eq
  · -- a line that is too long comes before the block of constants, and is the end of both parses
    rw [hbytes]
    have hparsed := (parse_readLines Handler.all (.ofBytes bytes)).2
    rw [hending] at hparsed
    cases hproblem : (readLines Handler.all (Source.ofBytes bytes).lines).2 <;>
      rw [hproblem] at hparsed <;>
      exact (result_of_problem hparsed).trans (result_of_problem hparsed).symm

/-- A source with an empty block of constants, whose program loads a constant. -/
def openSizes : String := "int x\ncompile:\nmain:\nr1 = $(M+1)\n"

/-- The source with definitions in the block, of which the second one refers to the first one. -/
def definedSizes : String :=
  "int x\ncompile:\nconst N = 3\nconst M = $(N*2)\nmain:\nr1 = $(M+1)\n"

theorem openSizes_result_eq :
    (((Compiler.standard.predefine "N" "3").predefine "M" "$(N*2)").compile
        (.ofText openSizes)).result =
      (Compiler.standard.compile (.ofText definedSizes)).result ∧
    (Compiler.standard.compile (.ofText openSizes)).result.isOk = false ∧
    (Compiler.standard.compile (.ofText definedSizes)).result.toOption.map
      (·.symbols.constants) = some [("N", "3"), ("M", "6")] := by
  refine ⟨?_, by decide +kernel, by decide +kernel⟩
  have hfirst : (Declaration.const "N" "3").WellFormed :=
    ⟨⟨by decide +kernel, by decide +kernel⟩, by decide +kernel⟩
  have hsecond : (Declaration.const "M" "$(N*2)").WellFormed :=
    ⟨⟨by decide +kernel, by decide +kernel⟩, by decide +kernel⟩
  exact @result_predefine_eq _ openSizes.toUTF8.toList definedSizes.toUTF8.toList
    "compile:".toUTF8.toList ["int x".toUTF8.toList]
    ["main:".toUTF8.toList, "r1 = $(M+1)".toUTF8.toList] [("N", "3"), ("M", "$(N*2)")]
    (by decide +kernel) (by decide +kernel) (by decide +kernel) (by decide +kernel)
    (List.forall_mem_cons.mpr ⟨hfirst, List.forall_mem_singleton.mpr hsecond⟩)
    (by decide +kernel)

end Shorthand
