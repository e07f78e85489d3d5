import Shorthand.Expression.Execute
import Shorthand.Proofs.Expression.Decimal
import Shorthand.Proofs.Lowering.Acceptance
import Shorthand.Proofs.Lowering.Events
import Shorthand.Proofs.Syntax.Lexemes
import Shorthand.Proofs.Syntax.Lossless

/-!
# Expressions can be replaced by their values

An expression has a value at its place, which depends on the constants that are defined before it.
Write the decimal text of the value in place of the expression, for every expression of a program
that can be lowered: then the program can still be lowered, and to the very same listing
(`lower_evaluated`).  Of the interpreter of expressions this needs no more than that it reads
decimal numbers.

## Strategy

* **One statement.**  Operands are handed on as texts, and a number is its own text, so that nothing
  changes in instructions, initial values and constants (`selected_evaluated`,
  `immediateTexts?_evaluated`, `constantText?_evaluated`).  A size is evaluated in any case, and the
  value of a decimal number is the number (`sizeOf?_evaluated`).
* **Runs.**  By this a statement and the one that replaces it do the same, also to the constants, up
  to what is printed (`step_evaluated`).  So the values that later expressions have are the same in
  both programs, and the rest follows by induction on the statements (`steps_evaluated`).
-/

namespace Shorthand

open Lowering Expression

section interpreter

variable [Interpreter]

/-! ## Values in place of expressions -/

/-- The operand with the value of an expression in place of the expression. -/
def Immediate.evaluated (constants : Constants) : Immediate → Immediate
  | expr text => ((expressionText? constants text).map number).getD (expr text)
  | number text => number text
  | char text => char text
  | name text => name text

/-- The second operand of an operation, with a value in place of an expression. -/
def Operand.evaluated (constants : Constants) : Operand → Operand
  | register name => register name
  | immediate value => immediate (value.evaluated constants)

/-- Where a store goes, with a value in place of an expression. -/
def Target.evaluated (constants : Constants) : Target → Target
  | «variable» name => «variable» name
  | memory base offset => memory base (offset.evaluated constants)

/-- The text of a constant, or the value if the text is a single expression. -/
def evaluatedText (constants : Constants) (value : String) : String :=
  if isSingleExpression value then (expressionText? constants value).getD value else value

/-- The declaration with values in place of expressions. -/
def Declaration.evaluated (constants : Constants) : Declaration → Declaration
  | scalar width name init => scalar width name (init.map (Immediate.evaluated constants))
  | array width name size => array width name (size.evaluated constants)
  | string name literal => string name literal
  | buffer name size => buffer name (size.evaluated constants)
  | const name value => const name (evaluatedText constants value)

/-- The statement with values in place of expressions. -/
def Statement.evaluated (constants : Constants) : Statement → Statement
  | load dst cast base offset => load dst cast base (offset.evaluated constants)
  | loadImmediate dst value => loadImmediate dst (value.evaluated constants)
  | operate dst src op rhs => operate dst src op (rhs.evaluated constants)
  | store cast src target => store cast src (target.evaluated constants)
  | declare declaration => declare (declaration.evaluated constants)
  | statement => statement

/-- The statement with values in place of expressions, on its line. -/
def Located.evaluated (constants : Constants) (located : Located) : Located :=
  { located with statement := located.statement.evaluated constants }

/-- Statements with values in place of expressions, each by the constants that are defined before
it. -/
def evaluatedAll (predefined constants : Constants) : List Located → List Located
  | [] => []
  | located :: rest =>
      located.evaluated constants ::
        evaluatedAll predefined
          ((located.statement.expand predefined).foldl Statement.define constants) rest

/-- The operands, offsets, initial values and sizes of a statement. -/
def Statement.immediates : Statement → List Immediate
  | load _ _ _ offset => [offset]
  | loadImmediate _ value => [value]
  | operate _ _ _ (.immediate value) => [value]
  | store _ _ (.memory _ offset) => [offset]
  | declare (.scalar _ _ init) => init
  | declare (.array _ _ size) | declare (.buffer _ size) => [size]
  | _ => []

/-- Nothing in the statement is an expression that has to be evaluated. -/
structure Statement.IsEvaluated (statement : Statement) : Prop where
  immediates : ∀ imm ∈ statement.immediates, ∀ text, imm ≠ .expr text
  constant : ∀ name value, statement = .declare (.const name value) →
    isSingleExpression value = false

namespace Lowering

variable {constants : Constants}

/-! ## Decimal texts -/

omit [Interpreter] in
/-- A text that is a single expression holds a dollar sign. -/
theorem dollar_mem_of_isSingleExpression {text : String} (h : isSingleExpression text = true) :
    '$' ∈ text.toList := by
  unfold isSingleExpression at h
  split at h
  · rename_i tok htokens
    have hmem : tok ∈ (lex text).tokens := by simp [htokens]
    obtain ⟨c, tail, hprint, -, hlexeme⟩ := cut_of_isLexeme (isLexeme_of_mem_lex hmem)
    have hkind : tok.kind = .expr := by simpa using h
    rw [hkind] at hlexeme
    cases cuts_of_lexeme hlexeme with
    | expr hdollar =>
        have hcovers : (lex text).Covers text.toList := covers_lexOnto (.start _) rfl
        have hstands := hcovers.stands tok hmem
        refine List.mem_of_mem_drop (hstands.written.subset ?_)
        rw [hprint, hdollar]
        exact List.mem_cons_self ..
  · cases h

omit [Interpreter] in
/-- The decimal text of a number is no expression. -/
theorem isSingleExpression_toString (value : Int) :
    isSingleExpression (toString value) = false := by
  by_contra hsingle
  have hdollar := dollar_mem_of_isSingleExpression (Bool.eq_true_of_not_eq_false hsingle)
  have hnot : ∀ n : Nat, '$' ∉ (toString n).toList := by
    intro n hmem
    rw [Nat.toString_eq_repr, Nat.toList_repr] at hmem
    exact absurd (Nat.isDigit_of_mem_toDigits (by decide) (by decide) hmem) (by decide)
  cases value with
  | ofNat n => exact hnot n hdollar
  | negSucc n =>
      have htext : toString (Int.negSucc n) = "-" ++ toString (n + 1) := rfl
      rw [htext, String.toList_append, List.mem_append] at hdollar
      rcases hdollar with hminus | hdigit
      · exact absurd hminus (by decide)
      · exact hnot (n + 1) hdigit

/-- The decimal text of a number that can be a size has the number as its value. -/
theorem valueOf?_toString [ReadsDecimals] {count : Int} (hpos : 0 < count)
    (hle : count ≤ sizeLimit) :
    valueOf? constants (toString count) = some count := by
  obtain ⟨n, rfl⟩ := Int.eq_ofNat_of_zero_le hpos.le
  have hlimit : sizeLimit = 2147483647 := rfl
  exact ReadsDecimals.value?_toString _ n (by omega) (by omega)

/-! ## Operands -/

theorem immediateText?_evaluated (imm : Immediate) :
    immediateText? constants (imm.evaluated constants) = immediateText? constants imm := by
  cases imm with
  | number text | char text | name text => rfl
  | expr text =>
      cases htext : expressionText? constants text <;>
        simp [Immediate.evaluated, immediateText?, htext]

theorem immediateTexts?_evaluated (imms : List Immediate) :
    immediateTexts? constants (imms.map (Immediate.evaluated constants)) =
      immediateTexts? constants imms := by
  induction imms with
  | nil => rfl
  | cons imm imms ih =>
      rw [List.map_cons, immediateTexts?, immediateTexts?, immediateText?_evaluated, ih]

theorem operationOf?_evaluated (dst src : Machine.Register) (op : Machine.Operator)
    (rhs : Operand) :
    operationOf? constants dst src op (rhs.evaluated constants) =
      operationOf? constants dst src op rhs := by
  cases rhs with
  | register name => rfl
  | immediate imm => simp only [Operand.evaluated, operationOf?, immediateText?_evaluated]

/-- A statement and the one that replaces it have the same instruction. -/
theorem selected_evaluated (statement : Statement) :
    selected constants (statement.evaluated constants) = selected constants statement := by
  cases statement with
  | load dst cast base offset =>
      simp only [Statement.evaluated, selected, immediateText?_evaluated]
  | loadImmediate dst value =>
      simp only [Statement.evaluated, selected, immediateText?_evaluated]
  | operate dst src op rhs => exact operationOf?_evaluated dst src op rhs
  | store cast src target =>
      cases target with
      | «variable» name => rfl
      | memory base offset =>
          simp only [Statement.evaluated, Target.evaluated, selected, immediateText?_evaluated]
  | _ => rfl

theorem constantText?_evaluated (value : String) :
    constantText? constants (evaluatedText constants value) = constantText? constants value := by
  by_cases hsingle : isSingleExpression value = true
  · cases hvalue : valueOf? constants (expressionBody value) with
    | none => simp [evaluatedText, constantText?, hsingle, expressionText?, hvalue]
    | some v =>
        have hplain := isSingleExpression_toString v
        simp only [evaluatedText, constantText?, hsingle, expressionText?, hvalue, if_true,
          Option.map_some, Option.getD_some, hplain, Bool.false_eq_true, if_false]
  · simp [evaluatedText, hsingle]

/-! ## Sizes and variables -/

theorem sizeOf?_evaluated [ReadsDecimals] {imm : Immediate} {width : Width} {count : Int}
    (h : sizeOf? constants imm width.bytes = some count) :
    sizeOf? constants (imm.evaluated constants) width.bytes = some count := by
  cases imm with
  | number text | char text | name text => exact h
  | expr text =>
      obtain ⟨hvalue, hcount⟩ := Option.filter_eq_some_iff.mp h
      have hexpr : valueOf? constants (expressionBody text) = some count := hvalue
      have hevaluated : (Immediate.expr text).evaluated constants = .number (toString count) := by
        simp only [Immediate.evaluated, expressionText?, hexpr, Option.map_some, Option.getD_some]
      have hpos : 0 < count ∧ count ≤ sizeLimit := by
        have hlimit : sizeLimit = 2147483647 := rfl
        simp only [Bool.not_eq_true', Bool.or_eq_false_iff, decide_eq_false_iff_not] at hcount
        cases width <;> simp only [Width.bytes] at hcount <;> omega
      rw [hevaluated]
      exact Option.filter_eq_some_iff.mpr ⟨valueOf?_toString hpos.1 hpos.2, hcount⟩

theorem storageOf?_evaluated [ReadsDecimals] {declaration : Declaration}
    {entry : Variable × Storage} (h : storageOf? constants declaration = some entry) :
    storageOf? constants (declaration.evaluated constants) = some entry := by
  cases declaration with
  | const name value => cases h
  | string name literal => exact h
  | scalar width name init =>
      simpa only [Declaration.evaluated, storageOf?, List.isEmpty_map, immediateTexts?_evaluated]
        using h
  | array width name size =>
      obtain ⟨count, hcount, hentry⟩ := Option.bind_eq_some_iff.mp h
      rw [Declaration.evaluated, storageOf?, sizeOf?_evaluated hcount]
      exact hentry
  | buffer name size =>
      obtain ⟨count, hcount, hentry⟩ := Option.bind_eq_some_iff.mp h
      rw [Declaration.evaluated, storageOf?, sizeOf?_evaluated hcount]
      exact hentry

theorem isVariable_evaluated (declaration : Declaration) :
    (declaration.evaluated constants).isVariable = declaration.isVariable := by
  cases declaration <;> rfl

theorem reserve?_evaluated [ReadsDecimals] {symbols : Symbols} {declaration : Declaration}
    {entry : Variable × Storage} (h : reserve? symbols declaration = some entry) :
    reserve? symbols (declaration.evaluated symbols.constants) = some entry := by
  obtain ⟨hstorage, hnew⟩ := reserve?_eq_some_iff.mp h
  exact reserve?_eq_some_iff.mpr ⟨storageOf?_evaluated hstorage, hnew⟩

/-! ## Steps -/

section steps

variable {predefined : Constants} {state next : State}

omit [Interpreter] in
/-- Two computations that yield the same value go on from nearly the same state, if the first one
succeeds. -/
theorem Yields.bind_exists_ok {α : Type} {events : List Event}
    {first second : Except Stop (α × State)} {value? : Option α}
    {rest : α × State → Except Stop State} (h : Yields state first value?)
    (h' : Yields (state.withEvents events) second value?)
    (hrest : ∀ value state events,
      Alike State.Near (rest (value, state)) (rest (value, state.withEvents events)))
    (hnext : (first >>= rest) = .ok next) :
    ∃ next', (second >>= rest) = .ok next' ∧ next.Near next' := by
  cases h with
  | stop stop => cases hnext
  | value value events₁ =>
      obtain ⟨events₂, rfl⟩ := h'.ok
      exact (hrest value (state.withEvents events₁) events₂).exists_ok hnext

theorem addInstruction_evaluated {statement : Statement} (events : List Event)
    (h : addInstruction state statement = .ok next) :
    ∃ next', addInstruction (state.withEvents events)
        (statement.evaluated state.symbols.constants) = .ok next' ∧ next.Near next' := by
  unfold addInstruction at h ⊢
  rw [scope_withEvents]
  cases hscope : state.scope with
  | nothing | compile =>
      rw [hscope] at h
      cases h
  | body body =>
      rw [hscope] at h
      have hyields := instruction_yields (state.withEvents events)
        (statement.evaluated state.symbols.constants)
      change Yields _ _ (selected state.symbols.constants _) at hyields
      rw [selected_evaluated] at hyields
      exact (instruction_yields state statement).bind_exists_ok hyields
        (fun leaf state events => addTo_alike state events body [leaf]) h

theorem declareVariable_evaluated [ReadsDecimals] {declaration : Declaration} (events : List Event)
    (hvariable : declaration.isVariable = true) (h : declare state declaration = .ok next) :
    ∃ next', declare (state.withEvents events)
        (declaration.evaluated state.symbols.constants) = .ok next' ∧ next.Near next' := by
  obtain ⟨entry, hentry, events₁, rfl⟩ := (declare_agrees state hvariable).of_ok h
  have hvariable' : (declaration.evaluated state.symbols.constants).isVariable = true :=
    (isVariable_evaluated declaration).trans hvariable
  have hagrees := declare_agrees (state.withEvents events) hvariable'
  change Agrees _ _ (reserve? state.symbols _) at hagrees
  rw [reserve?_evaluated hentry] at hagrees
  obtain ⟨next', hnext', events₂, rfl⟩ := hagrees.of_some
  exact ⟨_, hnext', events₂, rfl⟩

theorem defineConstant_evaluated {name value : String} (events : List Event)
    (h : defineConstant state name value = .ok next) :
    ∃ next', defineConstant (state.withEvents events) name
        (evaluatedText state.symbols.constants value) = .ok next' ∧ next.Near next' := by
  rw [defineConstant_eq] at h ⊢
  have hyields := constantText_yields (state.withEvents events)
    (evaluatedText state.symbols.constants value)
  change Yields _ _ (constantText? state.symbols.constants _) at hyields
  rw [constantText?_evaluated] at hyields
  refine (constantText_yields state value).bind_exists_ok hyields (fun text state events => ?_) h
  exact (addSetup_alike state events _).bind_near fun state events => .ok ⟨events, rfl⟩

theorem declare_evaluated [ReadsDecimals] {declaration : Declaration} (events : List Event)
    (h : declare state declaration = .ok next) :
    ∃ next', declare (state.withEvents events)
        (declaration.evaluated state.symbols.constants) = .ok next' ∧ next.Near next' := by
  by_cases hvariable : declaration.isVariable = true
  · exact declareVariable_evaluated events hvariable h
  cases declaration with
  | scalar | array | string | buffer => exact absurd rfl hvariable
  | const name value =>
      unfold declare at h
      cases hscope : state.scope with
      | nothing | body body =>
          rw [hscope] at h
          cases h
      | compile =>
          rw [hscope] at h
          simp only [Declaration.evaluated, declare, scope_withEvents, hscope]
          exact defineConstant_evaluated events h

/-- A step for the statement with values in place of expressions does the same, up to what is
printed. -/
theorem step_evaluated [ReadsDecimals] {located : Located} (events : List Event)
    (h : step predefined state located = .ok next) :
    ∃ next', step predefined (state.withEvents events)
        (located.evaluated state.symbols.constants) = .ok next' ∧ next.Near next' := by
  obtain ⟨place, statement⟩ := located
  cases statement with
  | declare declaration => exact declare_evaluated events h
  | load | loadImmediate | operate | store => exact addInstruction_evaluated events h
  | block | branch | otherwise | loop | close | call | comment | move | address | loadName =>
      exact (step_alike state events predefined place place _).exists_ok h

end steps

/-! ## Runs -/

/-- A statement that is lowered passes its check. -/
theorem Change.passes {predefined : Constants} {state next : State} {statement : Statement}
    (h : Change predefined state statement next) : statement.Passes state.symbols.constants := by
  obtain ⟨hchecked, -⟩ := h.constants
  unfold Statement.expand at hchecked
  split at hchecked
  · exact hchecked.1
  · exact hchecked.1

theorem immediates_evaluated (statement : Statement) :
    (statement.evaluated constants).immediates =
      statement.immediates.map (Immediate.evaluated constants) := by
  cases statement with
  | operate dst src op rhs => cases rhs <;> rfl
  | store cast src target => cases target <;> rfl
  | declare declaration => cases declaration <;> rfl
  | _ => rfl

theorem passes_of_isSize {imm : Immediate} {width : Width} (h : imm.IsSize constants width) :
    imm.Passes constants := by
  obtain ⟨text, count, hexpression, hvalue, -⟩ := h
  cases imm with
  | number | char | name => trivial
  | expr body =>
      obtain rfl := Option.some.inj hexpression
      exact ⟨count, hvalue⟩

/-- The operands of a statement that passes its check do so, too. -/
theorem passes_of_mem_immediates {statement : Statement} {imm : Immediate}
    (h : statement.Passes constants) (himm : imm ∈ statement.immediates) :
    imm.Passes constants := by
  cases statement with
  | load dst cast base offset =>
      obtain rfl := List.mem_singleton.mp himm
      exact h
  | loadImmediate dst value =>
      obtain rfl := List.mem_singleton.mp himm
      exact h
  | operate dst src op rhs =>
      cases rhs with
      | register name => cases himm
      | immediate value =>
          obtain rfl := List.mem_singleton.mp himm
          exact h.2
  | store cast src target =>
      cases target with
      | «variable» name => cases himm
      | memory base offset =>
          obtain rfl := List.mem_singleton.mp himm
          exact h
  | declare declaration =>
      cases declaration with
      | scalar width name init => exact h imm himm
      | array width name size =>
          obtain rfl := List.mem_singleton.mp himm
          exact passes_of_isSize h
      | buffer name size =>
          obtain rfl := List.mem_singleton.mp himm
          exact passes_of_isSize h
      | string | const => cases himm
  | _ => cases himm

theorem evaluated_ne_expr {imm : Immediate} (h : imm.Passes constants) (text : String) :
    imm.evaluated constants ≠ .expr text := by
  cases imm with
  | number | char | name => exact nofun
  | expr body =>
      obtain ⟨value, hvalue⟩ := h
      simp [Immediate.evaluated, expressionText?, hvalue]

theorem isSingleExpression_evaluatedText {value : String}
    (h : isSingleExpression value = true → Evaluable constants (expressionBody value)) :
    isSingleExpression (evaluatedText constants value) = false := by
  by_cases hsingle : isSingleExpression value = true
  · obtain ⟨v, hv⟩ := h hsingle
    simp only [evaluatedText, hsingle, if_true, expressionText?, hv, Option.map_some,
      Option.getD_some]
    exact isSingleExpression_toString v
  · simp [evaluatedText, hsingle]

/-- In a statement that passes its check, every expression is replaced. -/
theorem isEvaluated_evaluated {statement : Statement} (h : statement.Passes constants) :
    (statement.evaluated constants).IsEvaluated where
  immediates := by
    rw [immediates_evaluated]
    intro imm himm
    obtain ⟨written, hwritten, rfl⟩ := List.mem_map.mp himm
    exact evaluated_ne_expr (passes_of_mem_immediates h hwritten)
  constant := by
    intro name text heq
    cases statement with
    | declare declaration =>
        cases declaration with
        | const name value =>
            cases heq
            exact isSingleExpression_evaluatedText h
        | _ => cases heq
    | _ => cases heq

/-- Statements with values in place of expressions do the same, up to what is printed. -/
theorem steps_evaluated [ReadsDecimals] {predefined : Constants} {state final : State}
    {statements : List Located} (events : List Event) (hsound : state.Sound)
    (h : steps predefined state statements = .ok final) :
    (∃ final', steps predefined (state.withEvents events)
        (evaluatedAll predefined state.symbols.constants statements) = .ok final' ∧
          final.Near final') ∧
      ∀ located ∈ evaluatedAll predefined state.symbols.constants statements,
        located.statement.IsEvaluated := by
  induction statements generalizing state events with
  | nil =>
      cases h
      exact ⟨⟨_, rfl, events, rfl⟩, List.forall_mem_nil _⟩
  | cons located rest ih =>
      rw [steps_cons] at h
      cases hstep : step predefined state located with
      | error stop =>
          rw [hstep] at h
          cases h
      | ok next =>
          rw [hstep] at h
          have hchange := change_of_step hsound hstep
          obtain ⟨_, hnext', events', rfl⟩ := step_evaluated events hstep
          obtain ⟨hrest, hevaluated⟩ := ih events' (hsound.change hchange) h
          rw [hchange.constants.2] at hrest hevaluated
          rw [evaluatedAll, steps_cons, hnext']
          exact ⟨hrest,
            List.forall_mem_cons.mpr ⟨isEvaluated_evaluated hchange.passes, hevaluated⟩⟩

/-- **Expressions can be replaced by their values.**  Write the decimal text of its value in place
of every expression of statements that can be lowered, each value by the constants that are defined
before it.  Then no expression is left that would have to be evaluated, and the statements can be
lowered to the same listing. -/
theorem lower_evaluated [ReadsDecimals] {predefined : Constants} {statements : List Located}
    {listing : Listing} {events : List Event}
    (h : lower predefined statements = .ok (listing, events)) :
    (∃ events', lower predefined (evaluatedAll predefined [] statements) =
        .ok (listing, events')) ∧
      ∀ located ∈ evaluatedAll predefined [] statements, located.statement.IsEvaluated := by
  unfold lower at h ⊢
  cases hsteps : steps predefined .start statements with
  | error interrupted =>
      rw [hsteps] at h
      cases h
  | ok final =>
      rw [hsteps] at h
      obtain ⟨⟨_, hfinal', events', rfl⟩, hevaluated⟩ :=
        steps_evaluated State.start.events State.Sound.start hsteps
      refine ⟨?_, hevaluated⟩
      change steps predefined .start (evaluatedAll predefined [] statements) = _ at hfinal'
      rw [hfinal']
      dsimp only at h ⊢
      cases hconclude : conclude final with
      | error stop =>
          rw [hconclude] at h
          cases h
      | ok listing' =>
          rw [hconclude] at h
          obtain ⟨_, hlisting, rfl⟩ := (conclude_alike final events').exists_ok hconclude
          rw [hlisting]
          cases h
          exact ⟨_, rfl⟩

end Lowering

end interpreter

/-- A program with expressions everywhere, in which a constant is defined again. -/
def Lowering.computed : List Located :=
  [.block .compile true, .declare (.const "N" "$(K*2)"), .declare (.const "N" "$(N-9)"), .close,
    .declare (.scalar .word "w" [.expr "$(N)", .number "7"]),
    .declare (.array .byte "b" (.expr "$(-N)")),
    .block .main true, .operate "r1" "r2" .add (.immediate (.expr "$(N)")),
    .store .word "r1" (.memory "r5" (.expr "$(K)")), .close].map (Located.mk .start)

theorem Lowering.computed_lower_evaluated :
    ∃ listing events, lower [("K", "4")] computed = .ok (listing, events) ∧
      (∃ events', lower [("K", "4")] (evaluatedAll [("K", "4")] [] computed) =
        .ok (listing, events')) ∧
      (evaluatedAll [("K", "4")] [] computed).map Located.statement =
        [.block .compile true, .declare (.const "N" "8"), .declare (.const "N" "-1"), .close,
          .declare (.scalar .word "w" [.number "-1", .number "7"]),
          .declare (.array .byte "b" (.number "1")),
          .block .main true, .operate "r1" "r2" .add (.immediate (.number "-1")),
          .store .word "r1" (.memory "r5" (.number "4")), .close] := by
  have hok : (lower [("K", "4")] computed).isOk = true := by decide +kernel
  cases hlower : lower [("K", "4")] computed with
  | error interrupted =>
      rw [hlower] at hok
      cases hok
  | ok result =>
      exact ⟨result.1, result.2, rfl, (lower_evaluated hlower).1, by decide +kernel⟩

end Shorthand
