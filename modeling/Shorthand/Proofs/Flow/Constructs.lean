import Shorthand.Proofs.Flow.Layout

/-!
# Constructs in the code of a flow

Two things are said here about the code of a flow.  Every branch in it goes to a label that the
code defines (`resolves_code`): a guard leaves at the two labels of its condition, and the construct
around it defines both.

And the code of every construct can be found.  `Places` tells for a statement that opens a
construct, or turns to its alternative, what the code of this construct is; its name has a number
that is one more than the number of constructs of its kind opened before it.  `exists_places` says
that the code stands in the code of the whole flow.
-/

namespace Shorthand

open Lowering Machine

/-! ## Targets of branches -/

/-- The label that a leaf branches to. -/
def Leaf.target? : Leaf → Option String
  | .branch _ _ target => some target
  | .instr _ _ | .label _ | .comment _ | .text _ => none

/-- The labels that code branches to, in order. -/
def targetsOf (code : List Leaf) : List String := code.filterMap Leaf.target?

@[simp] theorem targetsOf_nil : targetsOf [] = [] := rfl

@[simp] theorem targetsOf_append (first second : List Leaf) :
    targetsOf (first ++ second) = targetsOf first ++ targetsOf second :=
  List.filterMap_append

@[simp] theorem targetsOf_label (name : String) (rest : List Leaf) :
    targetsOf (.label name :: rest) = targetsOf rest := rfl

@[simp] theorem targetsOf_comment (text : String) (rest : List Leaf) :
    targetsOf (.comment text :: rest) = targetsOf rest := rfl

@[simp] theorem targetsOf_jump (target : String) (rest : List Leaf) :
    targetsOf (.jump target :: rest) = target :: targetsOf rest := rfl

@[simp] theorem targetsOf_jumpIf (mnemonic a b target : String) (rest : List Leaf) :
    targetsOf (.jumpIf mnemonic a b target :: rest) = target :: targetsOf rest := rfl

/-- Every branch goes to a label of the code, or to one of the exits. -/
def Resolves (code : List Leaf) (exits : List String) : Prop :=
  ∀ target ∈ targetsOf code, target ∈ labelsOf code ∨ target ∈ exits

theorem Guard.resolves_build (base : String) (cond : Condition) (name : String) (given : Nat) :
    Resolves (build base cond name given).1 [trueLabel name, falseLabel name] := by
  induction cond generalizing name given with
  | compare a cmp b =>
      intro target hmem
      simp only [build, targetsOf_jumpIf, targetsOf_nil, List.mem_cons, List.not_mem_nil,
        or_false] at hmem
      exact .inr (by simp [hmem])
  | both lhs rhs ihl ihr =>
      -- the exits of the two parts are labels of the join
      intro target hmem
      have hleft := ihl (partName base (given + 1)) (given + 2) target
      have hright := ihr (partName base (given + 2)) (given + 2 + parts lhs) target
      simp only [build, build_given, joinBoth, targetsOf_append, targetsOf_label, targetsOf_jump,
        targetsOf_nil, List.mem_append, List.mem_cons, List.not_mem_nil, or_false,
        labelsOf_append, labelsOf_label, labelsOf_jump, labelsOf_nil] at hleft hright hmem ⊢
      grind
  | either lhs rhs ihl ihr =>
      intro target hmem
      have hleft := ihl (partName base (given + 1)) (given + 2) target
      have hright := ihr (partName base (given + 2)) (given + 2 + parts lhs) target
      simp only [build, build_given, joinEither, targetsOf_append, targetsOf_label,
        targetsOf_jump, targetsOf_nil, List.mem_append, List.mem_cons, List.not_mem_nil, or_false,
        labelsOf_append, labelsOf_label, labelsOf_jump, labelsOf_nil] at hleft hright hmem ⊢
      grind

theorem resolves_guard (cond : Condition) (name : String) :
    Resolves (cond.guard name) [trueLabel name, falseLabel name] :=
  Guard.resolves_build name cond name 0

section resolves

variable {first second body alternative : List Leaf}

theorem Resolves.append (hfirst : Resolves first []) (hsecond : Resolves second []) :
    Resolves (first ++ second) [] := by
  intro target hmem
  rw [targetsOf_append, List.mem_append] at hmem
  rw [labelsOf_append, List.mem_append]
  rcases hmem with hmem | hmem
  · exact .inl (.inl ((hfirst target hmem).resolve_right List.not_mem_nil))
  · exact .inl (.inr ((hsecond target hmem).resolve_right List.not_mem_nil))

theorem Resolves.branchCode (hbody : Resolves body []) (name : String) (cond : Condition) :
    Resolves (branchCode name cond body) [] := by
  intro target hmem
  have hguard := resolves_guard cond name target
  have hinner := hbody target
  simp only [Shorthand.branchCode, targetsOf_append, targetsOf_label, targetsOf_nil,
    List.mem_append, List.mem_cons, List.not_mem_nil, or_false, labelsOf_append, labelsOf_label,
    labelsOf_nil] at hguard hinner hmem ⊢
  grind

theorem Resolves.choiceCode (hbody : Resolves body []) (halternative : Resolves alternative [])
    (name after : String) (cond : Condition) :
    Resolves (choiceCode name after cond body alternative) [] := by
  intro target hmem
  have hguard := resolves_guard cond name target
  have hinner := hbody target
  have hother := halternative target
  simp only [Shorthand.choiceCode, targetsOf_append, targetsOf_label, targetsOf_jump,
    targetsOf_nil, List.mem_append, List.mem_cons, List.not_mem_nil, or_false, labelsOf_append,
    labelsOf_label, labelsOf_jump, labelsOf_nil] at hguard hinner hother hmem ⊢
  grind

theorem Resolves.loopCode (hbody : Resolves body []) (name : String) (cond? : Option Condition) :
    Resolves (loopCode name cond? body) [] := by
  intro target hmem
  have hinner := hbody target
  cases cond? with
  | none =>
      simp only [Shorthand.loopCode, targetsOf_append, targetsOf_label, targetsOf_jump,
        targetsOf_nil, List.mem_append, List.mem_cons, List.not_mem_nil, or_false,
        labelsOf_append, labelsOf_label, labelsOf_jump, labelsOf_nil] at hinner hmem ⊢
      grind
  | some cond =>
      have hguard := resolves_guard cond name target
      simp only [Shorthand.loopCode, targetsOf_append, targetsOf_label, targetsOf_jump,
        targetsOf_nil, List.mem_append, List.mem_cons, List.not_mem_nil, or_false,
        labelsOf_append, labelsOf_label, labelsOf_jump, labelsOf_nil] at hguard hinner hmem ⊢
      grind

end resolves

/-- Every branch in the code of a flow goes to a label of the code, if simple statements do not
branch. -/
theorem resolves_code {select : Statement → Option Leaf}
    (hselect : ∀ statement leaf, select statement = some leaf → leaf.target? = none)
    (name : String) (flow : Flow) (branches loops : Nat) :
    Resolves (flow.code select name branches loops) [] := by
  induction flow generalizing branches loops with
  | done => exact nofun
  | simple statement rest ih =>
      refine .append ?_ (ih branches loops)
      cases hleaf : select statement.val with
      | none => exact nofun
      | some leaf => simp [Resolves, targetsOf, hselect _ _ hleaf]
  | declare declaration rest ih => exact ih branches loops
  | comment text rest ih => exact ih branches loops
  | branch cond body rest ihb ih => exact .append (.branchCode (ihb _ _) _ _) (ih _ _)
  | choice cond body alternative rest ihb iha ih =>
      exact .append (.choiceCode (ihb _ _) (iha _ _) _ _ _) (ih _ _)
  | loop cond? body rest ihb ih => exact .append (.loopCode (ihb _ _) _ _) (ih _ _)

/-! ## Counting constructs -/

namespace Statement

/-- Whether the statement opens a conditional. -/
def isBranch : Statement → Bool
  | branch _ => true
  | _ => false

/-- Whether the statement opens a loop. -/
def isLoop : Statement → Bool
  | loop _ => true
  | _ => false

/-- Whether the statement opens a construct, or turns to an alternative. -/
def isConstruct : Statement → Bool
  | branch _ | loop _ | otherwise => true
  | _ => false

end Statement

/-- A simple statement opens no construct. -/
theorem SimpleStatement.not_construct (statement : SimpleStatement) :
    statement.val.isBranch = false ∧ statement.val.isLoop = false ∧
      statement.val.isConstruct = false := by
  obtain ⟨statement, hsimple⟩ := statement
  cases statement with
  | block | branch | otherwise | loop | close | comment | declare => cases hsimple
  | _ => exact ⟨rfl, rfl, rfl⟩

theorem Flow.countP_isBranch (flow : Flow) :
    flow.statements.countP Statement.isBranch = flow.branches := by
  induction flow with
  | done => rfl
  | simple statement rest ih =>
      rw [Flow.statements, List.countP_cons, statement.not_construct.1, ih]
      rfl
  | declare declaration rest ih => exact ih
  | comment text rest ih => exact ih
  | branch cond body rest ihb ih =>
      simp [Flow.statements, List.countP_cons, Statement.isBranch, ihb, ih, Flow.branches]
      omega
  | choice cond body alternative rest ihb iha ih =>
      simp [Flow.statements, List.countP_cons, Statement.isBranch, ihb, iha, ih, Flow.branches]
      omega
  | loop cond? body rest ihb ih =>
      simp [Flow.statements, Statement.isBranch, ihb, ih, Flow.branches]

theorem Flow.countP_isLoop (flow : Flow) :
    flow.statements.countP Statement.isLoop = flow.loops := by
  induction flow with
  | done => rfl
  | simple statement rest ih =>
      rw [Flow.statements, List.countP_cons, statement.not_construct.2.1, ih]
      rfl
  | declare declaration rest ih => exact ih
  | comment text rest ih => exact ih
  | branch cond body rest ihb ih =>
      simp [Flow.statements, Statement.isLoop, ihb, ih, Flow.loops]
  | choice cond body alternative rest ihb iha ih =>
      simp [Flow.statements, Statement.isLoop, ihb, iha, ih, Flow.loops]
      omega
  | loop cond? body rest ihb ih =>
      simp [Flow.statements, List.countP_cons, Statement.isLoop, ihb, ih, Flow.loops]
      omega

/-! ## The code of a construct -/

section places

variable {select : Statement → Option Leaf} {name : String} {branches loops : Nat}
  {inner later : List Statement} {statement : Statement} {piece : List Leaf}

/-- The code of the construct that a statement opens, or to whose alternative it turns, between the
statements `inner` and `later` around it; so many conditionals and loops were opened before
these. -/
inductive Places (select : Statement → Option Leaf) (name : String) (branches loops : Nat) :
    (inner : List Statement) → Statement → (later : List Statement) → List Leaf → Prop where
  | branch (inner : List Statement) (cond : Condition) (body : Flow) (rest : List Statement) :
      Places select name branches loops inner (.branch cond) (body.statements ++ .close :: rest)
        (branchCode (labelName name "if" (branches + inner.countP Statement.isBranch + 1)) cond
          (body.code select name (branches + inner.countP Statement.isBranch + 1)
            (loops + inner.countP Statement.isLoop)))
  | choice (inner : List Statement) (cond : Condition) (body alternative : Flow)
      (rest : List Statement) :
      Places select name branches loops inner (.branch cond)
        (body.statements ++ .otherwise :: (alternative.statements ++ .close :: rest))
        (choiceCode (labelName name "if" (branches + inner.countP Statement.isBranch + 1))
          (labelName name "else" (branches + inner.countP Statement.isBranch + 1)) cond
          (body.code select name (branches + inner.countP Statement.isBranch + 1)
            (loops + inner.countP Statement.isLoop))
          (alternative.code select name
            (branches + inner.countP Statement.isBranch + 1 + body.branches)
            (loops + inner.countP Statement.isLoop + body.loops)))
  /-- The alternative has the number of the conditional that it belongs to. -/
  | otherwise (inner : List Statement) (cond : Condition) (body alternative : Flow)
      (rest : List Statement) :
      Places select name branches loops (inner ++ .branch cond :: body.statements) .otherwise
        (alternative.statements ++ .close :: rest)
        (choiceCode (labelName name "if" (branches + inner.countP Statement.isBranch + 1))
          (labelName name "else" (branches + inner.countP Statement.isBranch + 1)) cond
          (body.code select name (branches + inner.countP Statement.isBranch + 1)
            (loops + inner.countP Statement.isLoop))
          (alternative.code select name
            (branches + inner.countP Statement.isBranch + 1 + body.branches)
            (loops + inner.countP Statement.isLoop + body.loops)))
  | loop (inner : List Statement) (cond? : Option Condition) (body : Flow)
      (rest : List Statement) :
      Places select name branches loops inner (.loop cond?) (body.statements ++ .close :: rest)
        (loopCode (labelName name "while" (loops + inner.countP Statement.isLoop + 1)) cond?
          (body.code select name (branches + inner.countP Statement.isBranch)
            (loops + inner.countP Statement.isLoop + 1)))

/-- What stands before and after leaves the construct as it is. -/
theorem Places.around (front : List Statement)
    (h : Places select name (branches + front.countP Statement.isBranch)
      (loops + front.countP Statement.isLoop) inner statement later piece)
    (back : List Statement) :
    Places select name branches loops (front ++ inner) statement (later ++ back) piece := by
  cases h with
  | branch _ cond body rest =>
      have hplaces := @Places.branch select name branches loops (front ++ inner)
        cond body (rest ++ back)
      simpa only [List.countP_append, ← Nat.add_assoc, List.append_assoc, List.cons_append]
        using hplaces
  | choice _ cond body alternative rest =>
      have hplaces := @Places.choice select name branches loops (front ++ inner)
        cond body alternative (rest ++ back)
      simpa only [List.countP_append, ← Nat.add_assoc, List.append_assoc, List.cons_append]
        using hplaces
  | otherwise inner cond body alternative rest =>
      have hplaces := @Places.otherwise select name branches loops (front ++ inner)
        cond body alternative (rest ++ back)
      simpa only [List.countP_append, ← Nat.add_assoc, List.append_assoc, List.cons_append]
        using hplaces
  | loop _ cond? body rest =>
      have hplaces := @Places.loop select name branches loops (front ++ inner)
        cond? body (rest ++ back)
      simpa only [List.countP_append, ← Nat.add_assoc, List.append_assoc, List.cons_append]
        using hplaces

/-- A statement stands before a mark, or is the mark, or stands after it. -/
private theorem split_at_mark {mark : Statement} {first second : List Statement}
    (h : first ++ mark :: second = inner ++ statement :: later) :
    (∃ later', first = inner ++ statement :: later' ∧ later = later' ++ mark :: second) ∨
      (statement = mark ∧ inner = first ∧ later = second) ∨
      ∃ inner', inner = first ++ [mark] ++ inner' ∧ second = inner' ++ statement :: later := by
  rcases List.append_eq_append_iff.mp h with ⟨gap, hinner, hgap⟩ | ⟨gap, hfirst, hgap⟩
  · cases gap with
    | nil =>
        cases hgap
        exact .inr (.inl ⟨rfl, by simpa using hinner, rfl⟩)
    | cons _ inner' =>
        cases hgap
        exact .inr (.inr ⟨inner', by simpa using hinner, rfl⟩)
  · cases gap with
    | nil =>
        cases hgap
        exact .inr (.inl ⟨rfl, by simpa using hfirst.symm, rfl⟩)
    | cons _ later' =>
        cases hgap
        exact .inl ⟨later', hfirst, rfl⟩

private theorem split_at_close {first second : List Statement}
    (hconstruct : statement.isConstruct = true)
    (h : first ++ .close :: second = inner ++ statement :: later) :
    (∃ later', first = inner ++ statement :: later' ∧ later = later' ++ .close :: second) ∨
      ∃ inner', inner = first ++ [.close] ++ inner' ∧ second = inner' ++ statement :: later := by
  rcases split_at_mark h with hfirst | ⟨rfl, -⟩ | hsecond
  · exact .inl hfirst
  · cases hconstruct
  · exact .inr hsecond

theorem infix_branchCode (cond : Condition) (body : List Leaf) :
    body <:+: branchCode name cond body :=
  ⟨cond.guard name ++ [.label (trueLabel name)], [.label (falseLabel name)], rfl⟩

theorem infix_choiceCode {after : String} (cond : Condition) (body alternative : List Leaf) :
    body <:+: choiceCode name after cond body alternative ∧
      alternative <:+: choiceCode name after cond body alternative := by
  refine ⟨⟨cond.guard name ++ [Leaf.label (trueLabel name)],
    [Leaf.jump after, Leaf.label (falseLabel name)] ++ alternative ++ [Leaf.label after], ?_⟩,
    ⟨cond.guard name ++ [Leaf.label (trueLabel name)] ++ body ++
      [Leaf.jump after, Leaf.label (falseLabel name)], [.label after], rfl⟩⟩
  simp only [choiceCode, List.append_assoc]

theorem infix_loopCode (cond? : Option Condition) (body : List Leaf) :
    body <:+: loopCode name cond? body := by
  cases cond? with
  | none => exact ⟨[.label name], [.jump name], rfl⟩
  | some cond =>
      refine ⟨[.jump (testLabel name), .label name], [Leaf.label (testLabel name)] ++
        cond.guard name ++
          [Leaf.label (trueLabel name), Leaf.jump name, Leaf.label (falseLabel name)], ?_⟩
      simp only [loopCode, List.append_assoc]

/-- A construct that is found in the code of a part is found in the code of the whole, with the
statements of the whole around it. -/
private theorem found_around (front : List Statement) {code whole : List Leaf} {b l : Nat}
    (h : ∃ piece, piece <:+: code ∧ Places select name b l inner statement later piece)
    (hcode : code <:+: whole) (hbranches : b = branches + front.countP Statement.isBranch)
    (hloops : l = loops + front.countP Statement.isLoop) (back : List Statement) :
    ∃ piece, piece <:+: whole ∧
      Places select name branches loops (front ++ inner) statement (later ++ back) piece := by
  subst hbranches hloops
  obtain ⟨piece, hpiece, hplaces⟩ := h
  exact ⟨piece, hpiece.trans hcode, hplaces.around front back⟩

private theorem found_after (front : List Statement) {code whole : List Leaf} {b l : Nat}
    (h : ∃ piece, piece <:+: code ∧ Places select name b l inner statement later piece)
    (hcode : code <:+: whole) (hbranches : b = branches + front.countP Statement.isBranch)
    (hloops : l = loops + front.countP Statement.isLoop) :
    ∃ piece, piece <:+: whole ∧
      Places select name branches loops (front ++ inner) statement later piece := by
  have hfound := found_around front h hcode hbranches hloops []
  rwa [List.append_nil] at hfound

/-- The code of every construct of a flow stands in the code of the flow. -/
theorem exists_places (select : Statement → Option Leaf) (name : String) (flow : Flow)
    (branches loops : Nat) (hsplit : flow.statements = inner ++ statement :: later)
    (hconstruct : statement.isConstruct = true) :
    ∃ piece, piece <:+: flow.code select name branches loops ∧
      Places select name branches loops inner statement later piece := by
  induction flow generalizing branches loops inner later with
  | done => simp [Flow.statements] at hsplit
  | simple first rest ih =>
      obtain ⟨hbranch, hloop, hother⟩ := first.not_construct
      cases inner with
      | nil =>
          cases hsplit
          rw [hother] at hconstruct
          cases hconstruct
      | cons _ inner =>
          obtain ⟨rfl, hrest⟩ := List.cons_eq_cons.mp hsplit
          exact found_after [first.val] (ih branches loops hrest)
            (List.suffix_append _ _).isInfix (by simp [hbranch]) (by simp [hloop])
  | declare declaration rest ih =>
      cases inner with
      | nil =>
          cases hsplit
          cases hconstruct
      | cons _ inner =>
          obtain ⟨rfl, hrest⟩ := List.cons_eq_cons.mp hsplit
          exact found_after [.declare _] (ih branches loops hrest) List.infix_rfl
            rfl rfl
  | comment text rest ih =>
      cases inner with
      | nil =>
          cases hsplit
          cases hconstruct
      | cons _ inner =>
          obtain ⟨rfl, hrest⟩ := List.cons_eq_cons.mp hsplit
          exact found_after [.comment text] (ih branches loops hrest)
            (List.suffix_cons _ _).isInfix rfl rfl
  | branch cond body rest ihb ih =>
      cases inner with
      | nil =>
          cases hsplit
          exact ⟨_, (List.prefix_append _ _).isInfix, .branch [] cond body _⟩
      | cons _ inner =>
          obtain ⟨rfl, hparts⟩ := List.cons_eq_cons.mp hsplit
          rcases split_at_close hconstruct hparts with
            ⟨later', hbody, rfl⟩ | ⟨inner', rfl, hrest⟩
          · exact found_around [.branch cond] (ihb (branches + 1) loops hbody)
              ((infix_branchCode cond _).trans (List.prefix_append _ _).isInfix) rfl rfl _
          · refine found_after (.branch cond :: (body.statements ++ [.close]))
              (ih (branches + 1 + body.branches) (loops + body.loops) hrest)
              (List.suffix_append _ _).isInfix ?_ ?_
            · simp [List.countP_cons, Statement.isBranch, body.countP_isBranch]
              omega
            · simp [Statement.isLoop, body.countP_isLoop]
  | choice cond body alternative rest ihb iha ih =>
      cases inner with
      | nil =>
          cases hsplit
          exact ⟨_, (List.prefix_append _ _).isInfix, .choice [] cond body alternative _⟩
      | cons _ inner =>
          obtain ⟨rfl, hparts⟩ := List.cons_eq_cons.mp hsplit
          rcases split_at_mark hparts with
            ⟨later', hbody, rfl⟩ | ⟨rfl, rfl, rfl⟩ | ⟨inner', rfl, hafter⟩
          · exact found_around [.branch cond] (ihb (branches + 1) loops hbody)
              ((infix_choiceCode cond _ _).1.trans (List.prefix_append _ _).isInfix) rfl rfl _
          · exact ⟨_, (List.prefix_append _ _).isInfix, .otherwise [] cond body alternative _⟩
          · rcases split_at_close hconstruct hafter with
              ⟨later', halternative, rfl⟩ | ⟨inner', rfl, hrest⟩
            · refine found_around (.branch cond :: (body.statements ++ [.otherwise]))
                (iha (branches + 1 + body.branches) (loops + body.loops) halternative)
                ((infix_choiceCode cond _ _).2.trans (List.prefix_append _ _).isInfix) ?_ ?_ _
              · simp [List.countP_cons, Statement.isBranch, body.countP_isBranch]
                omega
              · simp [Statement.isLoop, body.countP_isLoop]
            · rw [← List.cons_append, ← List.append_assoc]
              refine found_after
                (Statement.branch cond :: (body.statements ++ [Statement.otherwise]) ++
                  (alternative.statements ++ [Statement.close]))
                (ih (branches + 1 + body.branches + alternative.branches)
                  (loops + body.loops + alternative.loops) hrest)
                (List.suffix_append _ _).isInfix ?_ ?_
              · simp [List.countP_cons, Statement.isBranch, body.countP_isBranch,
                  alternative.countP_isBranch]
                omega
              · simp [Statement.isLoop, body.countP_isLoop, alternative.countP_isLoop]
                omega
  | loop cond? body rest ihb ih =>
      cases inner with
      | nil =>
          cases hsplit
          exact ⟨_, (List.prefix_append _ _).isInfix, .loop [] cond? body _⟩
      | cons _ inner =>
          obtain ⟨rfl, hparts⟩ := List.cons_eq_cons.mp hsplit
          rcases split_at_close hconstruct hparts with
            ⟨later', hbody, rfl⟩ | ⟨inner', rfl, hrest⟩
          · exact found_around [.loop cond?] (ihb branches (loops + 1) hbody)
              ((infix_loopCode cond? _).trans (List.prefix_append _ _).isInfix) rfl rfl _
          · refine found_after (.loop cond? :: (body.statements ++ [.close]))
              (ih (branches + body.branches) (loops + 1 + body.loops) hrest)
              (List.suffix_append _ _).isInfix ?_ ?_
            · simp [Statement.isBranch, body.countP_isBranch]
            · simp [List.countP_cons, Statement.isLoop, body.countP_isLoop]
              omega

end places

end Shorthand
