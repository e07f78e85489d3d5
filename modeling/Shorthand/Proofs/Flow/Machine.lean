import Mathlib.Data.List.Nodup
import Mathlib.Tactic.Common
import Shorthand.Guard

/-!
# A machine that runs code line by line

The machine has a state of any kind, of which only two things are known: what an instruction
makes of it, and which integers it has in its registers.  Code is a list of leaves, and the
machine is at one of its lines.  Instructions change the state; branches compare registers and
go on at a label; labels, comments and other lines do nothing.

A branch to a label that the code does not define leaves the code.  So the same machine runs a
whole body, in which every label is defined, and a piece that is meant to be put somewhere.

A run keeps the leaves that it executes.  The machine is deterministic: a run that ends outside
of the code goes through every other run with the same start (`Run.through`).

Code is looked at through its pieces.  `Holds code n piece` says that the piece stands in the
code from line `n` on, whatever is around it.
-/

namespace Shorthand

open Machine

variable {σ : Type*}

/-! ## Branches -/

/-- A comparison of two registers. -/
structure Comparison where
  a : Register
  cmp : Comparator
  b : Register
deriving DecidableEq

/-- The comparison that holds exactly when this one does not. -/
def Comparison.complement (c : Comparison) : Comparison := { c with cmp := c.cmp.complement }

/-- The comparator that a conditional branch tests. -/
def Machine.Comparator.ofBranch? (mnemonic : String) : Option Comparator :=
  Comparator.all.find? fun cmp => cmp.branch == mnemonic

@[simp] theorem Machine.Comparator.ofBranch?_branch (cmp : Comparator) :
    Comparator.ofBranch? cmp.branch = some cmp := by
  cases cmp <;> decide

/-- The comparison that a leaf makes, if it is a conditional branch. -/
def Leaf.comparison? : Leaf → Option Comparison
  | .branch mnemonic [a, b] _ => (Comparator.ofBranch? mnemonic).map fun cmp => ⟨a, cmp, b⟩
  | _ => none

/-- The comparisons that leaves make, in order. -/
def comparisonsOf (leaves : List Leaf) : List Comparison := leaves.filterMap Leaf.comparison?

@[simp] theorem comparisonsOf_nil : comparisonsOf [] = [] := rfl

@[simp] theorem comparisonsOf_append (first second : List Leaf) :
    comparisonsOf (first ++ second) = comparisonsOf first ++ comparisonsOf second :=
  List.filterMap_append

@[simp] theorem comparisonsOf_label (name : String) (rest : List Leaf) :
    comparisonsOf (.label name :: rest) = comparisonsOf rest := rfl

@[simp] theorem comparisonsOf_jump (target : String) (rest : List Leaf) :
    comparisonsOf (.jump target :: rest) = comparisonsOf rest := rfl

@[simp] theorem comparisonsOf_jumpIf (cmp : Comparator) (a b target : String)
    (rest : List Leaf) :
    comparisonsOf (.jumpIf cmp.branch a b target :: rest) = ⟨a, cmp, b⟩ :: comparisonsOf rest := by
  simp [comparisonsOf, Leaf.jumpIf, Leaf.comparison?]

/-- What a machine makes of instructions, and what it has in its registers. -/
structure Interpretation (σ : Type*) where
  /-- The state after an instruction, given by its mnemonic and its operands. -/
  exec : String → List String → σ → σ
  /-- The integer in a register. -/
  register : σ → Register → Int

/-- Whether a branch is taken; a branch that is none of the known ones is not understood. -/
def Interpretation.taken? (M : Interpretation σ) (s : σ) (mnemonic : String) :
    List Register → Option Bool
  | [] => if mnemonic = "br" then some true else none
  | [a, b] =>
      (Comparator.ofBranch? mnemonic).map fun cmp => cmp.holds (M.register s a) (M.register s b)
  | _ => none

/-! ## Runs -/

/-- Where a machine is. -/
inductive Spot where
  /-- At a line of the code, or right after the last one. -/
  | line (number : Nat)
  /-- Outside of the code, at a label. -/
  | label (name : String)
deriving DecidableEq

/-- Where a branch to a label leads. -/
def spotOf (code : List Leaf) (name : String) : Spot :=
  if .label name ∈ code then .line (code.idxOf (.label name)) else .label name

/-- A machine between two lines. -/
structure Config (σ : Type*) where
  spot : Spot
  state : σ

/-- What the machine does at a line. -/
def Interpretation.perform? (M : Interpretation σ) (code : List Leaf) (n : Nat) (s : σ) :
    Leaf → Option (Config σ)
  | .instr mnemonic operands => some ⟨.line (n + 1), M.exec mnemonic operands s⟩
  | .branch mnemonic operands target =>
      (M.taken? s mnemonic operands).map fun taken =>
        ⟨if taken then spotOf code target else .line (n + 1), s⟩
  | .label _ | .comment _ | .text _ => some ⟨.line (n + 1), s⟩

/-- A run of the machine, with the leaves that it executes. -/
inductive Run (M : Interpretation σ) (code : List Leaf) :
    Config σ → List Leaf → Config σ → Prop where
  | stop (config : Config σ) : Run M code config [] config
  | step {n : Nat} {s : σ} {leaf : Leaf} {next final : Config σ} {trace : List Leaf}
      (hleaf : code[n]? = some leaf) (hnext : M.perform? code n s leaf = some next)
      (hrun : Run M code next trace final) : Run M code ⟨.line n, s⟩ (leaf :: trace) final

/-- Whether a spot is not in the code. -/
def Spot.IsOutside (code : List Leaf) : Spot → Prop
  | line n => code.length ≤ n
  | label _ => True

variable {M : Interpretation σ} {code : List Leaf}

namespace Run

theorem one {n : Nat} {s : σ} {leaf : Leaf} {next : Config σ} (hleaf : code[n]? = some leaf)
    (hnext : M.perform? code n s leaf = some next) : Run M code ⟨.line n, s⟩ [leaf] next :=
  .step hleaf hnext (.stop _)

theorem trans {first middle last : Config σ} {before after : List Leaf}
    (h : Run M code first before middle) (h' : Run M code middle after last) :
    Run M code first (before ++ after) last := by
  induction h with
  | stop config => exact h'
  | step hleaf hnext _ ih => exact .step hleaf hnext (ih h')

/-- A run that ends outside of the code goes through every other run with the same start. -/
theorem through {first middle last : Config σ} {before whole : List Leaf}
    (h : Run M code first before middle) (h' : Run M code first whole last)
    (hout : last.spot.IsOutside code) :
    ∃ after, whole = before ++ after ∧ Run M code middle after last := by
  induction h generalizing whole with
  | stop config => exact ⟨whole, rfl, h'⟩
  | step hleaf hnext _ ih =>
      cases h' with
      | stop =>
          -- a line of the code cannot be outside of it
          have hlt := (List.getElem?_eq_some_iff.mp hleaf).1
          exact absurd hlt (Nat.not_lt.mpr hout)
      | step hleaf' hnext' hrun' =>
          obtain rfl := Option.some.inj (hleaf.symm.trans hleaf')
          obtain rfl := Option.some.inj (hnext.symm.trans hnext')
          obtain ⟨after, rfl, hafter⟩ := ih hrun'
          exact ⟨after, rfl, hafter⟩

/-- Two runs with the same start that both end outside of the code are the same. -/
theorem unique {first last last' : Config σ} {trace trace' : List Leaf}
    (h : Run M code first trace last) (hout : last.spot.IsOutside code)
    (h' : Run M code first trace' last') (hout' : last'.spot.IsOutside code) :
    trace' = trace ∧ last' = last := by
  obtain ⟨after, rfl, hafter⟩ := h.through h' hout'
  obtain ⟨rest, hrest, -⟩ := hafter.through (.stop last) hout
  cases hafter with
  | stop => simp
  | step _ _ _ => simp at hrest

end Run

/-! ## Pieces of code -/

/-- The piece stands in the code from a line on. -/
def Holds (code : List Leaf) (n : Nat) (piece : List Leaf) : Prop := piece <+: code.drop n

namespace Holds

variable {n : Nat} {piece first second : List Leaf} {leaf : Leaf}

theorem self (code : List Leaf) : Holds code 0 code := List.prefix_rfl

theorem left (h : Holds code n (first ++ second)) : Holds code n first :=
  (List.prefix_append first second).trans h

theorem right (h : Holds code n (first ++ second)) : Holds code (n + first.length) second := by
  obtain ⟨rest, hrest⟩ := h
  have hdrop : code.drop (n + first.length) = second ++ rest := by
    rw [← List.drop_drop, ← hrest]
    simp
  exact ⟨rest, hdrop.symm⟩

theorem head (h : Holds code n (leaf :: piece)) : code[n]? = some leaf := by
  obtain ⟨rest, hrest⟩ := h
  have hfirst := congrArg (fun leaves => leaves[0]?) hrest
  simpa using hfirst.symm

theorem tail (h : Holds code n (leaf :: piece)) : Holds code (n + 1) piece := by
  have hsplit : Holds code n ([leaf] ++ piece) := h
  exact hsplit.right

theorem at_line {m : Nat} (h : Holds code n piece) (hline : n = m) : Holds code m piece :=
  hline ▸ h

end Holds

/-! ## Labels -/

/-- The name that a leaf defines. -/
def Leaf.label? : Leaf → Option String
  | .label name => some name
  | _ => none

/-- The names that code defines, in order. -/
def labelsOf (code : List Leaf) : List String := code.filterMap Leaf.label?

@[simp] theorem labelsOf_nil : labelsOf [] = [] := rfl

@[simp] theorem labelsOf_append (first second : List Leaf) :
    labelsOf (first ++ second) = labelsOf first ++ labelsOf second :=
  List.filterMap_append

@[simp] theorem labelsOf_label (name : String) (rest : List Leaf) :
    labelsOf (.label name :: rest) = name :: labelsOf rest := rfl

@[simp] theorem labelsOf_branch (mnemonic : String) (operands : List String) (target : String)
    (rest : List Leaf) :
    labelsOf (.branch mnemonic operands target :: rest) = labelsOf rest := rfl

@[simp] theorem labelsOf_instr (mnemonic : String) (operands : List String) (rest : List Leaf) :
    labelsOf (.instr mnemonic operands :: rest) = labelsOf rest := rfl

@[simp] theorem labelsOf_comment (text : String) (rest : List Leaf) :
    labelsOf (.comment text :: rest) = labelsOf rest := rfl

@[simp] theorem labelsOf_jump (target : String) (rest : List Leaf) :
    labelsOf (.jump target :: rest) = labelsOf rest := rfl

@[simp] theorem labelsOf_jumpIf (mnemonic a b target : String) (rest : List Leaf) :
    labelsOf (.jumpIf mnemonic a b target :: rest) = labelsOf rest := rfl

theorem mem_labelsOf {name : String} : name ∈ labelsOf code ↔ .label name ∈ code := by
  simp only [labelsOf, List.mem_filterMap]
  constructor
  · rintro ⟨leaf, hmem, hname⟩
    cases leaf <;> simp [Leaf.label?] at hname
    exact hname ▸ hmem
  · intro hmem
    exact ⟨_, hmem, rfl⟩

/-- A branch to a label that is not defined leaves the code there. -/
theorem spotOf_eq_label {name : String} (h : name ∉ labelsOf code) :
    spotOf code name = .label name :=
  if_neg (mt mem_labelsOf.mpr h)

/-- Where every label is defined once, a branch finds the line with its label. -/
theorem spotOf_eq_line (hnodup : (labelsOf code).Nodup) {n : Nat} {name : String}
    {piece : List Leaf} (h : Holds code n (.label name :: piece)) :
    spotOf code name = .line n := by
  obtain ⟨hn, hleaf⟩ := List.getElem?_eq_some_iff.mp h.head
  have hmem : .label name ∈ code := List.mem_of_getElem? h.head
  rw [spotOf, if_pos hmem]
  -- split the code at the line; the label is not defined before it
  have hsplit : code = code.take n ++ .label name :: code.drop (n + 1) := by
    rw [← hleaf, List.getElem_cons_drop, List.take_append_drop]
  have hbefore : .label name ∉ code.take n := by
    rw [hsplit, labelsOf_append, labelsOf_label, List.nodup_append] at hnodup
    intro hearlier
    exact hnodup.2.2 name (mem_labelsOf.mpr hearlier) name (List.mem_cons_self ..) rfl
  rw [hsplit, List.idxOf_append_of_notMem hbefore, List.idxOf_cons_self, List.length_take]
  congr 1
  omega

/-! ## Runs of single lines -/

namespace Run

variable {n : Nat} {piece : List Leaf}

theorem label {name : String} (h : Holds code n (.label name :: piece)) (s : σ) :
    Run M code ⟨.line n, s⟩ [.label name] ⟨.line (n + 1), s⟩ :=
  .one h.head rfl

theorem instr {mnemonic : String} {operands : List String}
    (h : Holds code n (.instr mnemonic operands :: piece)) (s : σ) :
    Run M code ⟨.line n, s⟩ [.instr mnemonic operands]
      ⟨.line (n + 1), M.exec mnemonic operands s⟩ :=
  .one h.head rfl

theorem comment {text : String} (h : Holds code n (.comment text :: piece)) (s : σ) :
    Run M code ⟨.line n, s⟩ [.comment text] ⟨.line (n + 1), s⟩ :=
  .one h.head rfl

theorem jump {target : String} (h : Holds code n (.jump target :: piece)) (s : σ) :
    Run M code ⟨.line n, s⟩ [.jump target] ⟨spotOf code target, s⟩ :=
  .one h.head rfl

theorem jumpIf {cmp : Comparator} {a b target : String}
    (h : Holds code n (.jumpIf cmp.branch a b target :: piece)) (s : σ) :
    Run M code ⟨.line n, s⟩ [.jumpIf cmp.branch a b target]
      ⟨if cmp.holds (M.register s a) (M.register s b) then spotOf code target
        else .line (n + 1), s⟩ := by
  refine .one h.head ?_
  simp [Leaf.jumpIf, Interpretation.perform?, Interpretation.taken?]

end Run

end Shorthand
