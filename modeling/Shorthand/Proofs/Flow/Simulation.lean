import Shorthand.Proofs.Flow.Layout

/-!
# The code of a flow does what the flow says

A flow has a meaning of its own: it takes states to states, statement by statement, and its
constructs do what their conditions say (`Flow.Runs`).  The machine that runs the code of the flow
takes the same states to the same states.

## Strategy

The code of a flow stands somewhere in other code, in which every label is defined once.  For each
construct it is shown how the machine gets from one of its parts to the next.

From the flow to the machine, the induction is on how the flow runs.  A loop is entered once and
resumed after every turn, and these are different lines, so that the induction is about runs from
the line where a flow is resumed (`Flow.resumption`).

From the machine to the flow, the induction is on the flow.  The machine is deterministic: a run
that gets out of the code goes through every line that is shown to be reached, and what remains of
the run is a run of the rest.  Every turn of a loop takes something off the run, so the turns of a
loop are done by induction on the length of the run.
-/

namespace Shorthand

open Machine Lowering

variable {σ : Type*}

/-! ## The meaning of flows -/

/-- The flow takes the first state to the second one. -/
inductive Flow.Runs (M : Interpretation σ) (select : Statement → Option Leaf) :
    Flow → σ → σ → Prop where
  | done (s : σ) : Runs M select .done s s
  | simple {statement : SimpleStatement} {rest : Flow} {s s' : σ} {mnemonic : String}
      {operands : List String} (hselect : select statement.val = some (.instr mnemonic operands))
      (hrest : Runs M select rest (M.exec mnemonic operands s) s') :
      Runs M select (.simple statement rest) s s'
  | declare {declaration : VariableDeclaration} {rest : Flow} {s s' : σ}
      (hrest : Runs M select rest s s') : Runs M select (.declare declaration rest) s s'
  | comment {text : String} {rest : Flow} {s s' : σ} (hrest : Runs M select rest s s') :
      Runs M select (.comment text rest) s s'
  | branchTrue {cond : Condition} {body rest : Flow} {s t s' : σ}
      (hcond : cond.holds (M.register s) = true) (hbody : Runs M select body s t)
      (hrest : Runs M select rest t s') : Runs M select (.branch cond body rest) s s'
  | branchFalse {cond : Condition} {body rest : Flow} {s s' : σ}
      (hcond : cond.holds (M.register s) = false) (hrest : Runs M select rest s s') :
      Runs M select (.branch cond body rest) s s'
  | choiceTrue {cond : Condition} {body alternative rest : Flow} {s t s' : σ}
      (hcond : cond.holds (M.register s) = true) (hbody : Runs M select body s t)
      (hrest : Runs M select rest t s') :
      Runs M select (.choice cond body alternative rest) s s'
  | choiceFalse {cond : Condition} {body alternative rest : Flow} {s t s' : σ}
      (hcond : cond.holds (M.register s) = false) (hbody : Runs M select alternative s t)
      (hrest : Runs M select rest t s') :
      Runs M select (.choice cond body alternative rest) s s'
  /-- One more turn of a loop; an endless loop always makes one more. -/
  | loopTrue {cond? : Option Condition} {body rest : Flow} {s t s' : σ}
      (hcond : ∀ cond, cond? = some cond → cond.holds (M.register s) = true)
      (hbody : Runs M select body s t) (hagain : Runs M select (.loop cond? body rest) t s') :
      Runs M select (.loop cond? body rest) s s'
  | loopFalse {cond : Condition} {body rest : Flow} {s s' : σ}
      (hcond : cond.holds (M.register s) = false) (hrest : Runs M select rest s s') :
      Runs M select (.loop (some cond) body rest) s s'

/-- Every simple statement of the flow has an instruction. -/
def Flow.IsSelected (select : Statement → Option Leaf) : Flow → Prop
  | done => True
  | simple statement rest =>
      (∃ mnemonic operands, select statement.val = some (.instr mnemonic operands)) ∧
        rest.IsSelected select
  | declare _ rest | comment _ rest => rest.IsSelected select
  | branch _ body rest | loop _ body rest => body.IsSelected select ∧ rest.IsSelected select
  | choice _ body alternative rest =>
      body.IsSelected select ∧ alternative.IsSelected select ∧ rest.IsSelected select

/-! ## Getting through a guard -/

/-- The machine gets from one line to another one. -/
def Leads (M : Interpretation σ) (code : List Leaf) (n : Nat) (s : σ) (m : Nat) (s' : σ) : Prop :=
  ∃ trace, Run M code ⟨.line n, s⟩ trace ⟨.line m, s'⟩

variable {M : Interpretation σ} {code : List Leaf} {n m k : Nat} {s t u : σ} {name : String}
  {cond : Condition}

theorem Leads.refl (n : Nat) (s : σ) : Leads M code n s n s := ⟨[], .stop _⟩

theorem Leads.trans (h : Leads M code n s m t) (h' : Leads M code m t k u) :
    Leads M code n s k u := by
  obtain ⟨trace, hrun⟩ := h
  obtain ⟨trace', hrun'⟩ := h'
  exact ⟨trace ++ trace', hrun.trans hrun'⟩

theorem Leads.label {piece : List Leaf} (h : Holds code n (.label name :: piece)) (s : σ) :
    Leads M code n s (n + 1) s :=
  ⟨_, .label h s⟩

theorem Leads.instr {piece : List Leaf} {mnemonic : String} {operands : List String}
    (h : Holds code n (.instr mnemonic operands :: piece)) (s : σ) :
    Leads M code n s (n + 1) (M.exec mnemonic operands s) :=
  ⟨_, .instr h s⟩

theorem Leads.comment {piece : List Leaf} {text : String}
    (h : Holds code n (.comment text :: piece)) (s : σ) : Leads M code n s (n + 1) s :=
  ⟨_, .comment h s⟩

theorem Leads.jump {piece piece' : List Leaf} (hnodup : (labelsOf code).Nodup)
    (h : Holds code n (.jump name :: piece)) (hlabel : Holds code m (.label name :: piece'))
    (s : σ) : Leads M code n s m s := by
  have hrun := Run.jump (M := M) h s
  rw [spotOf_eq_line hnodup hlabel] at hrun
  exact ⟨_, hrun⟩

/-- A guard with its label for true right after it leads behind that label if its condition is
true. -/
theorem leads_guard_true {piece : List Leaf} (hnodup : (labelsOf code).Nodup)
    (h : Holds code n (cond.guard name ++ .label (trueLabel name) :: piece))
    (hcond : cond.holds (M.register s) = true) :
    Leads M code n s (n + (cond.guard name).length + 1) s := by
  obtain ⟨trace, spot, hrun, -, hspot⟩ :=
    Guard.decides_build (M := M) hnodup name cond h.left s
  rw [hcond] at hspot
  have heq : spot = .line (n + (cond.guard name).length) := hspot.eq_after hnodup h.right
  rw [heq] at hrun
  exact Leads.trans ⟨trace, hrun⟩ (.label h.right s)

theorem leads_guard_false {piece : List Leaf} (hnodup : (labelsOf code).Nodup)
    (h : Holds code n (cond.guard name))
    (hlabel : Holds code m (.label (falseLabel name) :: piece))
    (hcond : cond.holds (M.register s) = false) : Leads M code n s (m + 1) s := by
  obtain ⟨trace, spot, hrun, -, hspot⟩ := Guard.decides_build (M := M) hnodup name cond h s
  rw [hcond] at hspot
  have heq : spot = .line m := hspot.eq_false hnodup hlabel
  rw [heq] at hrun
  exact Leads.trans ⟨trace, hrun⟩ (.label hlabel s)

/-! ## Getting through a construct -/

section constructs

variable {body alternative : List Leaf} {after : String}

/-- Where the first part of a conditional begins. -/
def branchStart (n : Nat) (name : String) (cond : Condition) : Nat :=
  n + (cond.guard name).length + 1

/-- What the machine does around the body of a conditional. -/
structure LeadsBranch (M : Interpretation σ) (code : List Leaf) (n : Nat) (name : String)
    (cond : Condition) (body : List Leaf) : Prop where
  holds : Holds code (branchStart n name cond) body
  onTrue : ∀ s, cond.holds (M.register s) = true →
    Leads M code n s (branchStart n name cond) s
  onFalse : ∀ s, cond.holds (M.register s) = false →
    Leads M code n s (n + (branchCode name cond body).length) s
  afterBody : ∀ s, Leads M code (branchStart n name cond + body.length) s
    (n + (branchCode name cond body).length) s

theorem leads_branch (hnodup : (labelsOf code).Nodup)
    (h : Holds code n (branchCode name cond body)) : LeadsBranch M code n name cond body := by
  have hlength : n + (branchCode name cond body).length =
      branchStart n name cond + body.length + 1 := by
    simp [branchCode, branchStart]
    omega
  have hguard : Holds code n (cond.guard name ++ [.label (trueLabel name)]) := h.left.left
  have hbody : Holds code (branchStart n name cond) body :=
    h.left.right.at_line (by simp [branchStart]; omega)
  have hfalse : Holds code (branchStart n name cond + body.length)
      [.label (falseLabel name)] :=
    h.right.at_line (by simp [branchStart]; omega)
  refine ⟨hbody, fun s hcond => leads_guard_true hnodup hguard hcond, fun s hcond => ?_, ?_⟩
  · rw [hlength]
    exact leads_guard_false hnodup hguard.left hfalse hcond
  · intro s
    rw [hlength]
    exact .label hfalse s

/-- What the machine does around the two parts of a conditional with an alternative. -/
structure LeadsChoice (M : Interpretation σ) (code : List Leaf) (n : Nat) (name after : String)
    (cond : Condition) (body alternative : List Leaf) : Prop where
  holds : Holds code (branchStart n name cond) body
  holdsAlternative : Holds code (branchStart n name cond + body.length + 2) alternative
  onTrue : ∀ s, cond.holds (M.register s) = true →
    Leads M code n s (branchStart n name cond) s
  onFalse : ∀ s, cond.holds (M.register s) = false →
    Leads M code n s (branchStart n name cond + body.length + 2) s
  afterBody : ∀ s, Leads M code (branchStart n name cond + body.length) s
    (n + (choiceCode name after cond body alternative).length) s
  afterAlternative : ∀ s,
    Leads M code (branchStart n name cond + body.length + 2 + alternative.length) s
      (n + (choiceCode name after cond body alternative).length) s

theorem leads_choice (hnodup : (labelsOf code).Nodup)
    (h : Holds code n (choiceCode name after cond body alternative)) :
    LeadsChoice M code n name after cond body alternative := by
  have hlength : n + (choiceCode name after cond body alternative).length =
      branchStart n name cond + body.length + 2 + alternative.length + 1 := by
    simp [choiceCode, branchStart]
    omega
  have hguard : Holds code n (cond.guard name ++ [.label (trueLabel name)]) :=
    h.left.left.left.left
  have hbody : Holds code (branchStart n name cond) body :=
    h.left.left.left.right.at_line (by simp [branchStart]; omega)
  have hturn : Holds code (branchStart n name cond + body.length)
      [.jump after, .label (falseLabel name)] :=
    h.left.left.right.at_line (by simp [branchStart]; omega)
  have halternative : Holds code (branchStart n name cond + body.length + 2) alternative :=
    h.left.right.at_line (by simp [branchStart]; omega)
  have hafter : Holds code (branchStart n name cond + body.length + 2 + alternative.length)
      [.label after] :=
    h.right.at_line (by simp [branchStart]; omega)
  refine ⟨hbody, halternative, fun s hcond => leads_guard_true hnodup hguard hcond,
    fun s hcond => leads_guard_false hnodup hguard.left hturn.tail hcond, fun s => ?_,
    fun s => ?_⟩
  · rw [hlength]
    exact (Leads.jump hnodup hturn hafter s).trans (.label hafter s)
  · rw [hlength]
    exact .label hafter s

/-- Where the body of a loop begins. -/
def loopBodyStart (n : Nat) : Option Condition → Nat
  | none => n + 1
  | some _ => n + 2

/-- Where a loop goes on after a turn. -/
def loopHead (n : Nat) (cond? : Option Condition) (body : List Leaf) : Nat :=
  match cond? with
  | none => n
  | some _ => n + 2 + body.length

/-- What the machine does around the body of a loop. -/
structure LeadsLoop (M : Interpretation σ) (code : List Leaf) (n : Nat) (name : String)
    (cond? : Option Condition) (body : List Leaf) : Prop where
  holds : Holds code (loopBodyStart n cond?) body
  entry : ∀ s, Leads M code n s (loopHead n cond? body) s
  /-- The beginning of a turn takes at least one step. -/
  onTrue : ∀ s, (∀ cond, cond? = some cond → cond.holds (M.register s) = true) →
    ∃ trace, trace ≠ [] ∧
      Run M code ⟨.line (loopHead n cond? body), s⟩ trace ⟨.line (loopBodyStart n cond?), s⟩
  onFalse : ∀ s cond, cond? = some cond → cond.holds (M.register s) = false →
    Leads M code (loopHead n cond? body) s (n + (loopCode name cond? body).length) s
  afterBody : ∀ s, Leads M code (loopBodyStart n cond? + body.length) s (loopHead n cond? body) s

private theorem leads_endless (hnodup : (labelsOf code).Nodup)
    (h : Holds code n (loopCode name none body)) : LeadsLoop M code n name none body := by
  have hlabel : Holds code n [.label name] := h.left.left
  have hbody : Holds code (n + 1) body := h.left.right
  have hjump : Holds code (n + 1 + body.length) [.jump name] :=
    h.right.at_line (by simp; omega)
  refine ⟨hbody, fun s => .refl n s, fun s _ => ⟨_, ?_, .label hlabel s⟩, ?_, ?_⟩
  · exact List.cons_ne_nil _ _
  · intro s cond hcond
    cases hcond
  · intro s
    exact .jump hnodup hjump hlabel s

private theorem leads_while (hnodup : (labelsOf code).Nodup)
    (h : Holds code n (loopCode name (some cond) body)) :
    LeadsLoop M code n name (some cond) body := by
  have hstart : Holds code n [.jump (testLabel name), .label name] := h.left.left.left.left
  have hbody : Holds code (n + 2) body := h.left.left.left.right
  have htest : Holds code (n + 2 + body.length) [.label (testLabel name)] :=
    h.left.left.right.at_line (by simp; omega)
  have hend : Holds code (n + 2 + body.length + 1 + (cond.guard name).length)
      [.label (trueLabel name), .jump name, .label (falseLabel name)] :=
    h.right.at_line (by simp; omega)
  have hguard : Holds code (n + 2 + body.length + 1)
      (cond.guard name ++
        [Leaf.label (trueLabel name), Leaf.jump name, Leaf.label (falseLabel name)]) := by
    have hsplit : Holds code n (([Leaf.jump (testLabel name), Leaf.label name] ++ body ++
        [Leaf.label (testLabel name)]) ++ (cond.guard name ++
        [Leaf.label (trueLabel name), Leaf.jump name, Leaf.label (falseLabel name)])) := by
      rw [← List.append_assoc]
      exact h
    exact hsplit.right.at_line (by simp; omega)
  have hlength : n + (loopCode name (some cond) body).length =
      n + 2 + body.length + 1 + (cond.guard name).length + 2 + 1 := by
    simp [loopCode]
    omega
  refine ⟨hbody, fun s => .jump hnodup hstart htest s, fun s hcond => ?_, ?_, fun s => .refl _ s⟩
  · -- the test label makes the run of a turn non-empty
    obtain ⟨trace, hrun⟩ := leads_guard_true hnodup hguard (hcond cond rfl)
    obtain ⟨trace', hrun'⟩ := (Leads.jump (M := M) hnodup hend.tail hstart.tail s).trans
      (.label hstart.tail s)
    exact ⟨_, List.cons_ne_nil _ _, (Run.label htest s).trans (hrun.trans hrun')⟩
  · intro s cond' hcond' hfalse
    cases hcond'
    rw [hlength]
    exact (Leads.label htest s).trans (leads_guard_false hnodup hguard.left hend.tail.tail hfalse)

theorem leads_loop (hnodup : (labelsOf code).Nodup) {cond? : Option Condition}
    (h : Holds code n (loopCode name cond? body)) : LeadsLoop M code n name cond? body := by
  cases cond? with
  | none => exact leads_endless hnodup h
  | some cond => exact leads_while hnodup h

end constructs

/-! ## From the flow to the machine -/

variable {select : Statement → Option Leaf}

/-- Where a flow goes on after a turn, if it begins with a loop, and otherwise its first line. -/
def Flow.resumption (select : Statement → Option Leaf) (name : String) (n : Nat) :
    Flow → Nat → Nat → Nat
  | loop cond? body _, branches, loops =>
      loopHead n cond? (body.code select name branches (loops + 1))
  | _, _, _ => n

theorem leads_resumption (hnodup : (labelsOf code).Nodup) {flow : Flow} {b l : Nat}
    (h : Holds code n (flow.code select name b l)) (s : σ) :
    Leads M code n s (flow.resumption select name n b l) s := by
  cases flow with
  | loop cond? body rest => exact (leads_loop hnodup h.left).entry s
  | done | simple | declare | comment | branch | choice => exact .refl n s

/-- A flow that is run from where it is resumed can be run from its first line. -/
private theorem Leads.of_resumption {flow : Flow} {b l : Nat}
    (hleads : Leads M code (flow.resumption select name n b l) s m t)
    (hnodup : (labelsOf code).Nodup) (h : Holds code n (flow.code select name b l)) :
    Leads M code n s m t :=
  (leads_resumption hnodup h s).trans hleads

theorem leads_of_runs (hnodup : (labelsOf code).Nodup) {flow : Flow} {s s' : σ}
    (h : flow.Runs M select s s') {n b l : Nat} (hcode : Holds code n (flow.code select name b l)) :
    Leads M code (flow.resumption select name n b l) s
      (n + (flow.code select name b l).length) s' := by
  -- a further turn begins where the turn before it ends, which is not always the first line
  induction h generalizing n b l with
  | done s => exact .refl n s
  | simple hselect hrest ih =>
      simp only [Flow.code, hselect, Option.toList_some] at hcode ⊢
      have hlater := (ih hcode.tail).of_resumption hnodup hcode.tail
      rw [List.length_append, List.length_singleton, ← Nat.add_assoc]
      exact (Leads.instr hcode _).trans hlater
  | declare hrest ih => exact (ih hcode).of_resumption hnodup hcode
  | comment hrest ih =>
      have hlater := (ih hcode.tail).of_resumption hnodup hcode.tail
      rw [Flow.code, List.length_cons, Nat.add_comm _ 1, ← Nat.add_assoc]
      exact (Leads.comment hcode _).trans hlater
  | branchTrue hcond hbody hrest ihb ih =>
      have hbranch := leads_branch (M := M) hnodup hcode.left
      have hinner := (ihb hbranch.holds).of_resumption hnodup hbranch.holds
      have hlater := (ih hcode.right).of_resumption hnodup hcode.right
      rw [Flow.code, List.length_append, ← Nat.add_assoc]
      exact (((hbranch.onTrue _ hcond).trans hinner).trans (hbranch.afterBody _)).trans hlater
  | branchFalse hcond hrest ih =>
      have hbranch := leads_branch (M := M) hnodup hcode.left
      have hlater := (ih hcode.right).of_resumption hnodup hcode.right
      rw [Flow.code, List.length_append, ← Nat.add_assoc]
      exact (hbranch.onFalse _ hcond).trans hlater
  | choiceTrue hcond hbody hrest ihb ih =>
      have hchoice := leads_choice (M := M) hnodup hcode.left
      have hinner := (ihb hchoice.holds).of_resumption hnodup hchoice.holds
      have hlater := (ih hcode.right).of_resumption hnodup hcode.right
      rw [Flow.code, List.length_append, ← Nat.add_assoc]
      exact (((hchoice.onTrue _ hcond).trans hinner).trans (hchoice.afterBody _)).trans hlater
  | choiceFalse hcond hbody hrest ihb ih =>
      have hchoice := leads_choice (M := M) hnodup hcode.left
      have hinner := (ihb hchoice.holdsAlternative).of_resumption hnodup hchoice.holdsAlternative
      have hlater := (ih hcode.right).of_resumption hnodup hcode.right
      rw [Flow.code, List.length_append, ← Nat.add_assoc]
      exact (((hchoice.onFalse _ hcond).trans hinner).trans
        (hchoice.afterAlternative _)).trans hlater
  | loopTrue hcond hbody hagain ihb ih =>
      have hloop := leads_loop (M := M) hnodup hcode.left
      have hinner := (ihb hloop.holds).of_resumption hnodup hloop.holds
      obtain ⟨trace, -, hrun⟩ := hloop.onTrue _ hcond
      exact ((Leads.trans ⟨trace, hrun⟩ hinner).trans (hloop.afterBody _)).trans (ih hcode)
  | loopFalse hcond hrest ih =>
      have hloop := leads_loop (M := M) hnodup hcode.left
      have hlater := (ih hcode.right).of_resumption hnodup hcode.right
      rw [Flow.code, List.length_append, ← Nat.add_assoc]
      exact (hloop.onFalse _ _ rfl hcond).trans hlater

/-! ## From the machine to the flow -/

/-- A run that gets out of the code goes through what the machine leads to, and gets shorter. -/
private theorem Leads.through (h : Leads M code n s m t) {trace : List Leaf} {final : Config σ}
    (hrun : Run M code ⟨.line n, s⟩ trace final) (hout : final.spot.IsOutside code) :
    ∃ rest, rest.length ≤ trace.length ∧ Run M code ⟨.line m, t⟩ rest final := by
  obtain ⟨before, hbefore⟩ := h
  obtain ⟨rest, rfl, hrest⟩ := hbefore.through hrun hout
  exact ⟨rest, by simp, hrest⟩

/-- Every run that gets out of the code from the first line runs the flow, and is at the second
line after that. -/
def Follows (M : Interpretation σ) (code : List Leaf) (select : Statement → Option Leaf)
    (flow : Flow) (n m : Nat) : Prop :=
  ∀ s trace final, Run M code ⟨.line n, s⟩ trace final → final.spot.IsOutside code →
    ∃ s' rest, flow.Runs M select s s' ∧ rest.length ≤ trace.length ∧
      Run M code ⟨.line m, s'⟩ rest final

/-- A run goes through a part of a construct, and then through what comes after the construct. -/
private theorem Follows.part {part rest : Flow} {start stop next last : Nat} {trace : List Leaf}
    {final : Config σ} (hpart : Follows M code select part start stop)
    (hrest : Follows M code select rest next last) (hentry : Leads M code n s start s)
    (hexit : ∀ t, Leads M code stop t next t) (hrun : Run M code ⟨.line n, s⟩ trace final)
    (hout : final.spot.IsOutside code) :
    ∃ t s' later, part.Runs M select s t ∧ rest.Runs M select t s' ∧
      later.length ≤ trace.length ∧ Run M code ⟨.line last, s'⟩ later final := by
  obtain ⟨first, hle1, hfirst⟩ := hentry.through hrun hout
  obtain ⟨t, second, hinner, hle2, hsecond⟩ := hpart s first final hfirst hout
  obtain ⟨third, hle3, hthird⟩ := (hexit t).through hsecond hout
  obtain ⟨s', later, hruns, hle4, hfinal⟩ := hrest t third final hthird hout
  exact ⟨t, s', later, hinner, hruns, by omega, hfinal⟩

/-- One more turn takes something off the run, and after the last one the rest is run. -/
private theorem follows_loop {cond? : Option Condition} {body rest : Flow} {inner : List Leaf}
    {m : Nat} (hloop : LeadsLoop M code n name cond? inner)
    (hbody : Follows M code select body (loopBodyStart n cond?)
      (loopBodyStart n cond? + inner.length))
    (hrest : Follows M code select rest (n + (loopCode name cond? inner).length) m) :
    Follows M code select (.loop cond? body rest) (loopHead n cond? inner) m := by
  intro s trace final hrun hout
  -- the loop has no bound of its own, but every turn takes at least one leaf off the run
  induction hlength : trace.length using Nat.strongRecOn generalizing s trace with
  | ind length ih =>
      subst hlength
      by_cases hcond : ∀ cond, cond? = some cond → cond.holds (M.register s) = true
      · obtain ⟨before, hne, hbefore⟩ := hloop.onTrue s hcond
        obtain ⟨turn, rfl, hturn⟩ := hbefore.through hrun hout
        obtain ⟨t, back, hruns, hle, hback⟩ := hbody s turn final hturn hout
        obtain ⟨again, hle', hagain⟩ := (hloop.afterBody t).through hback hout
        have hlt : again.length < (before ++ turn).length := by
          have hpos := List.length_pos_iff.mpr hne
          rw [List.length_append]
          omega
        obtain ⟨s', later, hlater, hshort, hfinal⟩ := ih again.length hlt t again hagain rfl
        exact ⟨s', later, .loopTrue hcond hruns hlater, by omega, hfinal⟩
      · push Not at hcond
        obtain ⟨cond, rfl, hfalse⟩ := hcond
        have hcond : cond.holds (M.register s) = false := by simpa using hfalse
        obtain ⟨after, hle, hafter⟩ := (hloop.onFalse s cond rfl hcond).through hrun hout
        obtain ⟨s', later, hruns, hle', hfinal⟩ := hrest s after final hafter hout
        exact ⟨s', later, .loopFalse hcond hruns, by omega, hfinal⟩

/-- The code of a flow is followed from its first line to its end. -/
theorem follows_code (hnodup : (labelsOf code).Nodup) {flow : Flow}
    (hselected : flow.IsSelected select) {n b l : Nat}
    (hcode : Holds code n (flow.code select name b l)) :
    Follows M code select flow n (n + (flow.code select name b l).length) := by
  induction flow generalizing n b l with
  | done =>
      intro s trace final hrun hout
      exact ⟨s, trace, .done s, Nat.le_refl _, hrun⟩
  | simple statement rest ih =>
      obtain ⟨⟨mnemonic, operands, hselect⟩, hselected⟩ := hselected
      simp only [Flow.code, hselect, Option.toList_some] at hcode ⊢
      intro s trace final hrun hout
      obtain ⟨after, hle, hafter⟩ := (Leads.instr hcode s).through hrun hout
      obtain ⟨s', later, hruns, hle', hfinal⟩ :=
        ih hselected hcode.tail _ after final hafter hout
      rw [List.length_append, List.length_singleton, ← Nat.add_assoc]
      exact ⟨s', later, .simple hselect hruns, by omega, hfinal⟩
  | declare declaration rest ih =>
      intro s trace final hrun hout
      obtain ⟨s', later, hruns, hle, hfinal⟩ := ih hselected hcode s trace final hrun hout
      exact ⟨s', later, .declare hruns, hle, hfinal⟩
  | comment text rest ih =>
      intro s trace final hrun hout
      obtain ⟨after, hle, hafter⟩ := (Leads.comment hcode s).through hrun hout
      obtain ⟨s', later, hruns, hle', hfinal⟩ := ih hselected hcode.tail s after final hafter hout
      rw [Flow.code, List.length_cons, Nat.add_comm _ 1, ← Nat.add_assoc]
      exact ⟨s', later, .comment hruns, by omega, hfinal⟩
  | branch cond body rest ihb ih =>
      have hbranch := leads_branch (M := M) hnodup hcode.left
      intro s trace final hrun hout
      rw [Flow.code, List.length_append, ← Nat.add_assoc]
      cases hcond : cond.holds (M.register s) with
      | true =>
          obtain ⟨t, s', later, hinner, hruns, hle, hfinal⟩ :=
            (ihb hselected.1 hbranch.holds).part (ih hselected.2 hcode.right)
              (hbranch.onTrue s hcond) hbranch.afterBody hrun hout
          exact ⟨s', later, .branchTrue hcond hinner hruns, hle, hfinal⟩
      | false =>
          obtain ⟨first, hle1, hfirst⟩ := (hbranch.onFalse s hcond).through hrun hout
          obtain ⟨s', later, hruns, hle2, hfinal⟩ :=
            ih hselected.2 hcode.right s first final hfirst hout
          exact ⟨s', later, .branchFalse hcond hruns, by omega, hfinal⟩
  | choice cond body alternative rest ihb iha ih =>
      have hchoice := leads_choice (M := M) hnodup hcode.left
      have hafter := ih hselected.2.2 hcode.right
      intro s trace final hrun hout
      rw [Flow.code, List.length_append, ← Nat.add_assoc]
      cases hcond : cond.holds (M.register s) with
      | true =>
          obtain ⟨t, s', later, hinner, hruns, hle, hfinal⟩ :=
            (ihb hselected.1 hchoice.holds).part hafter (hchoice.onTrue s hcond)
              hchoice.afterBody hrun hout
          exact ⟨s', later, .choiceTrue hcond hinner hruns, hle, hfinal⟩
      | false =>
          obtain ⟨t, s', later, hinner, hruns, hle, hfinal⟩ :=
            (iha hselected.2.1 hchoice.holdsAlternative).part hafter (hchoice.onFalse s hcond)
              hchoice.afterAlternative hrun hout
          exact ⟨s', later, .choiceFalse hcond hinner hruns, hle, hfinal⟩
  | loop cond? body rest ihb ih =>
      have hloop := leads_loop (M := M) hnodup hcode.left
      have hfollows := follows_loop hloop (ihb hselected.1 hloop.holds)
        (ih hselected.2 hcode.right)
      intro s trace final hrun hout
      rw [Flow.code, List.length_append, ← Nat.add_assoc]
      obtain ⟨first, hle, hfirst⟩ := (hloop.entry s).through hrun hout
      obtain ⟨s', later, hruns, hle', hfinal⟩ := hfollows s first final hfirst hout
      exact ⟨s', later, hruns, by omega, hfinal⟩

/-! ## Both ways -/

/-- On its own, the code of a flow takes a state from its first line to its end exactly if the flow
takes it there. -/
theorem runs_iff_run {flow : Flow} (hselected : flow.IsSelected select)
    (hselect : ∀ statement leaf, select statement = some leaf → leaf.label? = none)
    (b l : Nat) (s s' : σ) :
    flow.Runs M select s s' ↔
      ∃ trace, Run M (flow.code select name b l) ⟨.line 0, s⟩ trace
        ⟨.line (flow.code select name b l).length, s'⟩ := by
  have hnodup := nodup_labelsOf_code hselect name flow b l
  have hcode := Holds.self (flow.code select name b l)
  constructor
  · intro h
    have hleads := (leads_of_runs hnodup h hcode).of_resumption hnodup hcode
    rw [Nat.zero_add] at hleads
    exact hleads
  · rintro ⟨trace, hrun⟩
    have hout : (Spot.line (flow.code select name b l).length).IsOutside
        (flow.code select name b l) := Nat.le_refl _
    obtain ⟨t, rest, hruns, -, hrest⟩ := follows_code hnodup hselected hcode s trace _ hrun hout
    rw [Nat.zero_add] at hrest
    -- the end of the code is outside of it, so nothing of the run is left
    obtain ⟨-, hsame⟩ := (Run.stop _).unique hout hrest hout
    cases hsame
    exact hruns

end Shorthand
