import Shorthand.Expression.Execute
import Shorthand.Proofs.Lowering.Blocks
import Shorthand.Proofs.Syntax.Parsed

/-!
# The instructions of a body

Guards and constructs add only branches and labels to the code of a body.  Without these, and
without the comments, the code is the list of the instructions selected for the simple statements
of the body, one for each and in their order (`instructionsOf_code`).  So the instruction of a
statement is found by counting the simple statements before it.

What is selected for a name depends on the constants that are known when the body is lowered.
`instruction_of_named_load` tells when a name is loaded as an immediate value: it has to be a
constant of the program, and the block of constants has to stand before the body.  A body that
stands before the block of constants loads its constants from memory.
-/

namespace Shorthand

open Lowering Machine

/-! ## Code without its control flow -/

/-- Whether the leaf is an instruction or a directive, and no branch. -/
def Leaf.isInstr : Leaf → Bool
  | instr _ _ => true
  | branch _ _ _ | label _ | comment _ | text _ => false

/-- The instructions of code, in order. -/
def instructionsOf (code : List Leaf) : List Leaf := code.filter Leaf.isInstr

@[simp] theorem instructionsOf_nil : instructionsOf [] = [] := rfl

@[simp] theorem instructionsOf_append (first second : List Leaf) :
    instructionsOf (first ++ second) = instructionsOf first ++ instructionsOf second :=
  List.filter_append ..

@[simp] theorem instructionsOf_label (name : String) (rest : List Leaf) :
    instructionsOf (.label name :: rest) = instructionsOf rest := rfl

@[simp] theorem instructionsOf_jump (target : String) (rest : List Leaf) :
    instructionsOf (.jump target :: rest) = instructionsOf rest := rfl

@[simp] theorem instructionsOf_comment (text : String) (rest : List Leaf) :
    instructionsOf (.comment text :: rest) = instructionsOf rest := rfl

theorem Guard.instructionsOf_build (base : String) (cond : Condition) (name : String)
    (given : Nat) : instructionsOf (build base cond name given).1 = [] := by
  induction cond generalizing name given with
  | compare a cmp b => rfl
  | both lhs rhs ihl ihr => simp [build, joinBoth, ihl, ihr]
  | either lhs rhs ihl ihr => simp [build, joinEither, ihl, ihr]

@[simp] theorem instructionsOf_guard (cond : Condition) (name : String) :
    instructionsOf (cond.guard name) = [] :=
  Guard.instructionsOf_build name cond name 0

@[simp] theorem instructionsOf_branchCode (name : String) (cond : Condition) (body : List Leaf) :
    instructionsOf (branchCode name cond body) = instructionsOf body := by
  simp [branchCode]

@[simp] theorem instructionsOf_choiceCode (name after : String) (cond : Condition)
    (body alternative : List Leaf) :
    instructionsOf (choiceCode name after cond body alternative) =
      instructionsOf body ++ instructionsOf alternative := by
  simp [choiceCode]

@[simp] theorem instructionsOf_loopCode (name : String) (cond? : Option Condition)
    (body : List Leaf) : instructionsOf (loopCode name cond? body) = instructionsOf body := by
  cases cond? with
  | none => simp [loopCode]
  | some cond => simp [loopCode]

/-- The instructions of a flow are those selected for its statements, if instructions are selected,
and for simple statements only. -/
theorem instructionsOf_code {select : Statement → Option Leaf}
    (hinstr : ∀ statement leaf, select statement = some leaf → leaf.isInstr = true)
    (hsimple : ∀ statement : Statement, statement.isSimple = false → select statement = none)
    (name : String) (flow : Flow) (branches loops : Nat) :
    instructionsOf (flow.code select name branches loops) =
      flow.statements.filterMap select := by
  have hclose : select .close = none := hsimple _ rfl
  have hotherwise : select .otherwise = none := hsimple _ rfl
  induction flow generalizing branches loops with
  | done => rfl
  | simple statement rest ih =>
      have hleaf : instructionsOf (select statement.val).toList =
          (select statement.val).toList := by
        cases hselect : select statement.val with
        | none => rfl
        | some leaf => simp [instructionsOf, hinstr _ _ hselect]
      rw [Flow.code, instructionsOf_append, hleaf, ih, Flow.statements, filterMap_cons_eq]
  | declare declaration rest ih =>
      rw [Flow.code, ih, Flow.statements, filterMap_cons_eq, hsimple _ rfl]
      rfl
  | comment text rest ih =>
      rw [Flow.code, instructionsOf_comment, ih, Flow.statements, filterMap_cons_eq,
        hsimple _ rfl]
      rfl
  | branch cond body rest ihb ih =>
      have hhead : select (.branch cond) = none := hsimple _ rfl
      simp [Flow.code, Flow.statements, ihb, ih, hhead, hclose]
  | choice cond body alternative rest ihb iha ih =>
      have hhead : select (.branch cond) = none := hsimple _ rfl
      simp [Flow.code, Flow.statements, ihb, iha, ih, hhead, hotherwise, hclose]
  | loop cond? body rest ihb ih =>
      have hhead : select (.loop cond?) = none := hsimple _ rfl
      simp [Flow.code, Flow.statements, ihb, ih, hhead, hclose]

theorem Flow.IsSelected.isSome {select : Statement → Option Leaf} {flow : Flow}
    (h : flow.IsSelected select) {statement : Statement} (hmem : statement ∈ flow.statements)
    (hsimple : statement.isSimple = true) : (select statement).isSome = true := by
  induction flow with
  | done => cases hmem
  | simple first rest ih =>
      obtain ⟨⟨mnemonic, operands, hfirst⟩, hrest⟩ := h
      rcases List.mem_cons.mp hmem with rfl | hmem
      · rw [hfirst]
        rfl
      · exact ih hrest hmem
  | declare declaration rest ih =>
      rcases List.mem_cons.mp hmem with rfl | hmem
      · cases hsimple
      · exact ih h hmem
  | comment text rest ih =>
      rcases List.mem_cons.mp hmem with rfl | hmem
      · cases hsimple
      · exact ih h hmem
  | branch cond body rest ihb ih | loop cond body rest ihb ih =>
      simp only [Flow.statements, List.mem_cons, List.mem_append] at hmem
      rcases hmem with rfl | hmem | rfl | hmem
      · cases hsimple
      · exact ihb h.1 hmem
      · cases hsimple
      · exact ih h.2 hmem
  | choice cond body alternative rest ihb iha ih =>
      simp only [Flow.statements, List.mem_cons, List.mem_append] at hmem
      rcases hmem with rfl | hmem | rfl | hmem | rfl | hmem
      · cases hsimple
      · exact ihb h.1 hmem
      · cases hsimple
      · exact iha h.2.1 hmem
      · cases hsimple
      · exact ih h.2.2 hmem

/-! ## The instruction of a statement -/

namespace Lowering

variable [Interpreter]

theorem selected_eq_none {constants : Constants} {statement : Statement}
    (h : statement.isSimple = false) : selected constants statement = none := by
  cases statement with
  | block | branch | otherwise | loop | close | comment | declare => rfl
  | _ => cases h

theorem isInstr_of_selected {constants : Constants} {statement : Statement} {leaf : Leaf}
    (h : selected constants statement = some leaf) : leaf.isInstr = true := by
  obtain ⟨mnemonic, operands, rfl⟩ := eq_instr_of_selected h
  rfl

theorem selected_loadName (constants : Constants) (dst : Register) (name : String) :
    selected constants (.loadName dst name none) =
      some (if (constants.lookup name).isSome = true then .instr "movi" [dst, name]
        else .instr "ldw" [dst, memoryOperand name Register.zero]) :=
  (apply_ite some _ _ _).symm

variable {predefined : Constants} {statements : List Located} {listing : Listing}
  {events : List Event} {kind : BodyKind} {colon : Bool} {before inner after : List Statement}
  {statement : Statement}

/-- The instruction of a simple statement stands after those of the simple statements before it. -/
theorem getElem?_instructionsOf_body
    (hlower : lower predefined statements = .ok (listing, events))
    (hsplit : statements.map Located.statement =
      before ++ .block kind.head colon :: (inner ++ statement :: after))
    (hinner : inner.filterMap Statement.head? = []) (hsimple : statement.isSimple = true) :
    ∃ nodes, listing.body? kind = some nodes ∧
      (instructionsOf (Node.leavesOf nodes))[(inner.filter Statement.isSimple).length]? =
        selected (constantsAfter predefined before) statement := by
  have hstatement : statement.isInner = true := by
    cases statement with
    | branch | loop | otherwise => rfl
    | _ => exact hsimple
  obtain ⟨flow, later, rest, nodes, first, hflow, -, -, hnodes, hselected, hcode⟩ :=
    listing_block_of_inner hlower hsplit hinner hstatement
  refine ⟨nodes, hnodes, ?_⟩
  rw [hcode, instructionsOf_code (fun _ _ h => isInstr_of_selected h)
    (fun _ h => selected_eq_none h), hflow, List.filterMap_append]
  -- every simple statement before this one has one instruction, and no other statement has any
  have hlength : (inner.filterMap (selected (constantsAfter predefined before))).length =
      (inner.filter Statement.isSimple).length := by
    rw [List.length_filterMap_eq_countP, ← List.countP_eq_length_filter]
    refine List.countP_congr fun other hother => ⟨fun hsome => ?_, fun hother' => ?_⟩
    · by_contra hnot
      rw [selected_eq_none (Bool.eq_false_iff.mpr hnot)] at hsome
      cases hsome
    · exact hselected.isSome (hflow ▸ List.mem_append_left _ hother) hother'
  have hsome := hselected.isSome (hflow ▸ List.mem_append_right _ (List.mem_cons_self ..)) hsimple
  obtain ⟨leaf, hleaf⟩ := Option.isSome_iff_exists.mp hsome
  rw [← hlength, List.getElem?_append_right (Nat.le_refl _), Nat.sub_self,
    List.filterMap_cons_some hleaf, hleaf]
  rfl

end Lowering

/-! ## Names -/

/-- **Where a name is loaded from.**  In a program that is compiled, the loading of a name without a
cast becomes a move of an immediate value if the name is a constant of the program and the block of
constants stands before the body; otherwise it becomes a load from memory.  Where the other bodies
stand does not matter. -/
theorem instruction_of_named_load [Interpreter] {compiler : Compiler} {source : Source}
    {listing : Listing}
    {kind : BodyKind} {colon : Bool} {before inner after : List Statement} {dst : Register}
    {name : String} (hcompile : (compiler.compile source).outcome = .ok listing)
    (hsplit : (parse compiler.handlers source).statements.map Located.statement =
      before ++ .block kind.head colon :: (inner ++ .loadName dst name none :: after))
    (hinner : inner.filterMap Statement.head? = []) :
    ∃ nodes, listing.body? kind = some nodes ∧
      (instructionsOf (Node.leavesOf nodes))[(inner.filter Statement.isSimple).length]? =
        some (if .compile ∈ before.filterMap Statement.head? ∧
            (listing.symbols.constant? name).isSome = true
          then .instr "movi" [dst, name]
          else .instr "ldw" [dst, memoryOperand name Register.zero]) := by
  obtain ⟨events, hlower⟩ := lower_of_compile hcompile
  obtain ⟨nodes, hnodes, hinstruction⟩ := getElem?_instructionsOf_body hlower hsplit hinner rfl
  refine ⟨nodes, hnodes, hinstruction.trans ?_⟩
  rw [constantsAfter_eq hlower hsplit, selected_loadName]
  by_cases hbefore : .compile ∈ before.filterMap Statement.head?
  · simp only [hbefore, if_true, true_and, Symbols.lookup_constants]
  · simp only [hbefore, if_false, false_and, List.lookup_nil, Option.isSome_none,
      Bool.false_eq_true]

/-- A program whose body stands before the block of constants, with a function after it. -/
def lateConstant : Source :=
  ⟨["main:", "r1 = N", "end", "compile:", "const N = 5", "end", "func f:", "r2 = N", "end"], none⟩

theorem lateConstant_named_loads :
    ∃ listing main f,
      (Compiler.standard.compile lateConstant).outcome = .ok listing ∧
      listing.symbols.constant? "N" = some "5" ∧
      listing.body? .main = some main ∧ listing.body? (.function "f") = some f ∧
      (instructionsOf (Node.leavesOf main))[0]? = some (.instr "ldw" ["r1", "N(r0)"]) ∧
      (instructionsOf (Node.leavesOf f))[0]? = some (.instr "movi" ["r2", "N"]) := by
  have hsome : ((Compiler.standard.compile lateConstant).outcome.toOption.bind
      fun listing => listing.symbols.constant? "N") = some "5" := by decide +kernel
  cases hcompile : (Compiler.standard.compile lateConstant).outcome with
  | error rejection => simp [hcompile, Except.toOption] at hsome
  | ok listing =>
      replace hsome : listing.symbols.constant? "N" = some "5" := by
        simpa [hcompile, Except.toOption] using hsome
      -- the statements, as they stand around the two loads
      obtain ⟨main, hmain, hfirst⟩ := @instruction_of_named_load _ _ _ _ .main true
        [] [] [.close, .block .compile true, .declare (.const "N" "5"), .close,
          .block (.function "f") true, .loadName "r2" "N" none, .close]
        "r1" "N" hcompile (by decide +kernel) rfl
      obtain ⟨f, hf, hsecond⟩ := @instruction_of_named_load _ _ _ _ (.function "f") true
        [.block .main true, .loadName "r1" "N" none, .close, .block .compile true,
          .declare (.const "N" "5"), .close] [] [.close]
        "r2" "N" hcompile (by decide +kernel) rfl
      refine ⟨listing, main, f, rfl, hsome, hmain, hf, hfirst, hsecond.trans ?_⟩
      rw [hsome]
      rfl

end Shorthand
