import Shorthand.Proofs.Flow.Labels
import Shorthand.Proofs.Flow.Program

/-!
# The code of a flow

Lowering fills the code of a body statement by statement.  This file says what the code is in
the end, as a function of the whole flow (`Flow.code`): a conditional begins with its guard, a loop
ends with it, and the names of constructs are numbered in the order in which they are opened.

`nodup_labelsOf_code` says that no label is defined twice.  Labels of different constructs have
different numbers: those of a flow lie between the numbers that are given out before it and after
it (`Spans`), so flows that stand one after the other have none in common.
-/

namespace Shorthand

open Lowering

/-! ## Code -/

namespace Flow

/-- How many conditionals are opened in the flow. -/
def branches : Flow → Nat
  | done => 0
  | simple _ rest | declare _ rest | comment _ rest => rest.branches
  | branch _ body rest => 1 + body.branches + rest.branches
  | choice _ body alternative rest =>
      1 + body.branches + alternative.branches + rest.branches
  | loop _ body rest => body.branches + rest.branches

/-- How many loops are opened in the flow. -/
def loops : Flow → Nat
  | done => 0
  | simple _ rest | declare _ rest | comment _ rest => rest.loops
  | branch _ body rest => body.loops + rest.loops
  | choice _ body alternative rest => body.loops + alternative.loops + rest.loops
  | loop _ body rest => 1 + body.loops + rest.loops

end Flow

/-- The code of a conditional with a name. -/
def branchCode (name : String) (cond : Condition) (body : List Leaf) : List Leaf :=
  cond.guard name ++ [.label (trueLabel name)] ++ body ++ [.label (falseLabel name)]

/-- The code of a conditional with an alternative, after which there is a label. -/
def choiceCode (name after : String) (cond : Condition) (body alternative : List Leaf) :
    List Leaf :=
  cond.guard name ++ [.label (trueLabel name)] ++ body ++
    [.jump after, .label (falseLabel name)] ++ alternative ++ [.label after]

/-- The code of a loop with a name. -/
def loopCode (name : String) (cond? : Option Condition) (body : List Leaf) : List Leaf :=
  match cond? with
  | none => [.label name] ++ body ++ [.jump name]
  | some cond =>
      [.jump (testLabel name), .label name] ++ body ++ [.label (testLabel name)] ++
        cond.guard name ++ [.label (trueLabel name), .jump name, .label (falseLabel name)]

/-- The code of a flow in a body with a name.  Simple statements are what is selected for them,
and so many conditionals and loops were opened in the body before. -/
def Flow.code (select : Statement → Option Leaf) (name : String) :
    Flow → Nat → Nat → List Leaf
  | done, _, _ => []
  | simple statement rest, branches, loops =>
      (select statement.val).toList ++ rest.code select name branches loops
  | declare _ rest, branches, loops => rest.code select name branches loops
  | comment text rest, branches, loops => .comment text :: rest.code select name branches loops
  | branch cond body rest, branches, loops =>
      branchCode (labelName name Word.branch.text (branches + 1)) cond
          (body.code select name (branches + 1) loops) ++
        rest.code select name (branches + 1 + body.branches) (loops + body.loops)
  | choice cond body alternative rest, branches, loops =>
      choiceCode (labelName name Word.branch.text (branches + 1))
          (labelName name Word.alternative.text (branches + 1)) cond
          (body.code select name (branches + 1) loops)
          (alternative.code select name (branches + 1 + body.branches) (loops + body.loops)) ++
        rest.code select name (branches + 1 + body.branches + alternative.branches)
          (loops + body.loops + alternative.loops)
  | loop cond? body rest, branches, loops =>
      loopCode (labelName name Word.loop.text (loops + 1)) cond?
          (body.code select name branches (loops + 1)) ++
        rest.code select name (branches + body.branches) (loops + 1 + body.loops)

/-! ## Labels -/

/-- The labels in the guard of a construct. -/
def guardLabels (word : Word) (number : Nat) (cond : Condition) : List Label :=
  (Guard.placed cond 0).map fun part => ⟨word, number, some part.1, .value part.2⟩

theorem labelsOf_guard (name : String) (word : Word) (number : Nat) (cond : Condition) :
    labelsOf (cond.guard (labelName name word.text number)) =
      (guardLabels word number cond).map (Label.text name) := by
  rw [Condition.guard, Guard.labelsOf_build, guardLabels, List.map_map]
  exact List.map_congr_left fun part _ => Label.text_part name word number part

/-- The labels of a loop itself. -/
def loopLabels (number : Nat) : Option Condition → List Label
  | none => [⟨.loop, number, none, .bare⟩]
  | some cond =>
      [⟨.loop, number, none, .bare⟩, ⟨.loop, number, none, .test⟩] ++
        guardLabels .loop number cond ++
        [⟨.loop, number, none, .value true⟩, ⟨.loop, number, none, .value false⟩]

/-- The labels of a conditional itself. -/
def branchLabels (number : Nat) (cond : Condition) : List Label :=
  guardLabels .branch number cond ++
    [⟨.branch, number, none, .value true⟩, ⟨.branch, number, none, .value false⟩]

/-- The labels of a flow, those of a construct before those of its parts. -/
def Flow.labels : Flow → Nat → Nat → List Label
  | done, _, _ => []
  | simple _ rest, branches, loops | declare _ rest, branches, loops
  | comment _ rest, branches, loops => rest.labels branches loops
  | branch cond body rest, branches, loops =>
      branchLabels (branches + 1) cond ++ body.labels (branches + 1) loops ++
        rest.labels (branches + 1 + body.branches) (loops + body.loops)
  | choice cond body alternative rest, branches, loops =>
      (branchLabels (branches + 1) cond ++ [⟨.alternative, branches + 1, none, .bare⟩]) ++
        body.labels (branches + 1) loops ++
        alternative.labels (branches + 1 + body.branches) (loops + body.loops) ++
        rest.labels (branches + 1 + body.branches + alternative.branches)
          (loops + body.loops + alternative.loops)
  | loop cond? body rest, branches, loops =>
      loopLabels (loops + 1) cond? ++ body.labels branches (loops + 1) ++
        rest.labels (branches + body.branches) (loops + 1 + body.loops)

/-- The code of a flow defines its labels, if simple statements define none. -/
theorem labelsOf_code_perm {select : Statement → Option Leaf}
    (hselect : ∀ statement leaf, select statement = some leaf → leaf.label? = none)
    (name : String) (flow : Flow) (branches loops : Nat) :
    (labelsOf (flow.code select name branches loops)).Perm
      ((flow.labels branches loops).map (Label.text name)) := by
  -- the labels of a construct stand around those of its parts, so the two lists are compared by
  -- how often each text occurs
  induction flow generalizing branches loops with
  | done => exact .refl _
  | simple statement rest ih =>
      have hnone : labelsOf (select statement.val).toList = [] := by
        cases hleaf : select statement.val with
        | none => rfl
        | some leaf => simp [labelsOf, hselect _ _ hleaf]
      rw [Flow.code, labelsOf_append, hnone, List.nil_append, Flow.labels]
      exact ih branches loops
  | declare declaration rest ih => exact ih branches loops
  | comment text rest ih => exact ih branches loops
  | branch cond body rest ihb ih =>
      have hbody := ihb (branches + 1) loops
      have hrest := ih (branches + 1 + body.branches) (loops + body.loops)
      rw [List.perm_iff_count] at hbody hrest ⊢
      intro text
      simp only [Flow.code, branchCode, Flow.labels, branchLabels, labelsOf_append,
        labelsOf_label, labelsOf_nil, labelsOf_guard, Label.text_true, Label.text_false,
        List.map_append, List.map_cons, List.map_nil, List.count_append, List.count_cons,
        List.count_nil, hbody, hrest]
      omega
  | choice cond body alternative rest ihb iha ih =>
      have hbody := ihb (branches + 1) loops
      have halternative := iha (branches + 1 + body.branches) (loops + body.loops)
      have hrest := ih (branches + 1 + body.branches + alternative.branches)
        (loops + body.loops + alternative.loops)
      rw [List.perm_iff_count] at hbody halternative hrest ⊢
      intro text
      simp only [Flow.code, choiceCode, Flow.labels, branchLabels, labelsOf_append,
        labelsOf_label, labelsOf_jump, labelsOf_nil, labelsOf_guard, Label.text_true,
        Label.text_false, List.map_append, List.map_cons, List.map_nil, List.count_append,
        List.count_cons, List.count_nil, hbody, halternative, hrest]
      simp only [Label.text_bare]
      omega
  | loop cond? body rest ihb ih =>
      have hbody := ihb branches (loops + 1)
      have hrest := ih (branches + body.branches) (loops + 1 + body.loops)
      rw [List.perm_iff_count] at hbody hrest ⊢
      intro text
      cases cond? with
      | none =>
          simp only [Flow.code, loopCode, Flow.labels, loopLabels, labelsOf_append,
            labelsOf_label, labelsOf_jump, labelsOf_nil, List.map_append, List.map_cons,
            List.map_nil, List.count_append, List.count_cons, List.count_nil, hbody, hrest,
            Label.text_bare]
          omega
      | some cond =>
          simp only [Flow.code, loopCode, Flow.labels, loopLabels, labelsOf_append,
            labelsOf_label, labelsOf_jump, labelsOf_nil, labelsOf_guard, Label.text_true,
            Label.text_false, Label.text_test, List.map_append, List.map_cons, List.map_nil,
            List.count_append, List.count_cons, List.count_nil, hbody, hrest]
          simp only [Label.text_bare]
          omega

/-! ## No label is defined twice -/

/-- The number of the label lies between those that were given out before and after. -/
def Label.IsBetween (branches loops branches' loops' : Nat) (label : Label) : Prop :=
  if label.word = .loop then loops < label.number ∧ label.number ≤ loops'
  else branches < label.number ∧ label.number ≤ branches'

/-- The labels differ, and their numbers lie between those that were given out before and
after. -/
structure Spans (labels : List Label) (branches loops branches' loops' : Nat) : Prop where
  nodup : labels.Nodup
  between : ∀ label ∈ labels, label.IsBetween branches loops branches' loops'
  branches_le : branches ≤ branches'
  loops_le : loops ≤ loops'

namespace Spans

variable {labels labels' : List Label} {b l b' l' b'' l'' : Nat}

/-- Labels of flows that stand one after the other differ. -/
theorem append (h : Spans labels b l b' l') (h' : Spans labels' b' l' b'' l'') :
    Spans (labels ++ labels') b l b'' l'' where
  nodup := by
    refine List.nodup_append.mpr ⟨h.nodup, h'.nodup, ?_⟩
    rintro label hmem _ hmem' rfl
    -- a label of both lists would have a number of the one range and of the other
    have hbetween := h.between label hmem
    have hbetween' := h'.between label hmem'
    unfold Label.IsBetween at hbetween hbetween'
    split at hbetween
    · rename_i hword
      rw [if_pos hword] at hbetween'
      omega
    · rename_i hword
      rw [if_neg hword] at hbetween'
      omega
  between := by
    intro label hmem
    have hle := h.branches_le
    have hle' := h'.branches_le
    have hloops := h.loops_le
    have hloops' := h'.loops_le
    rcases List.mem_append.mp hmem with hmem | hmem
    · have hbetween := h.between label hmem
      unfold Label.IsBetween at hbetween ⊢
      split <;> simp_all <;> omega
    · have hbetween := h'.between label hmem
      unfold Label.IsBetween at hbetween ⊢
      split <;> simp_all <;> omega
  branches_le := Nat.le_trans h.branches_le h'.branches_le
  loops_le := Nat.le_trans h.loops_le h'.loops_le

theorem nil (b l : Nat) : Spans [] b l b l := ⟨.nil, nofun, Nat.le_refl b, Nat.le_refl l⟩

end Spans

private theorem nodup_guardLabels (word : Word) (number : Nat) (cond : Condition) :
    (guardLabels word number cond).Nodup := by
  refine (Guard.nodup_placed cond 0).map ?_
  rintro ⟨part, value⟩ ⟨part', value'⟩ h
  simpa using h

private theorem of_mem_guardLabels {word : Word} {number : Nat} {cond : Condition} {label : Label}
    (h : label ∈ guardLabels word number cond) :
    label.word = word ∧ label.number = number ∧ label.part? ≠ none := by
  obtain ⟨part, -, rfl⟩ := List.mem_map.mp h
  exact ⟨rfl, rfl, nofun⟩

/-- The labels of a conditional itself have its number. -/
private theorem spans_branchLabels (b l : Nat) (cond : Condition) :
    Spans (branchLabels (b + 1) cond ++ [⟨.alternative, b + 1, none, .bare⟩]) b l (b + 1) l where
  nodup := by
    simp only [branchLabels, List.append_assoc, List.cons_append, List.nil_append]
    refine List.nodup_append.mpr ⟨nodup_guardLabels .branch (b + 1) cond, by simp, ?_⟩
    -- the labels of the guard belong to a part of the condition, the others to the whole
    rintro label hmem _ hmem' rfl
    have hpart := (of_mem_guardLabels hmem).2.2
    simp only [List.mem_cons, List.not_mem_nil, or_false] at hmem'
    rcases hmem' with rfl | rfl | rfl <;> exact hpart rfl
  between := by
    intro label hmem
    have hlabel : label.word ≠ .loop ∧ label.number = b + 1 := by
      simp only [branchLabels, List.mem_append, List.mem_cons, List.not_mem_nil, or_false] at hmem
      rcases hmem with (hmem | rfl | rfl) | rfl
      · have hguard := of_mem_guardLabels hmem
        simp [hguard]
      all_goals simp
    rw [Label.IsBetween, if_neg hlabel.1]
    omega
  branches_le := Nat.le_succ b
  loops_le := Nat.le_refl l

private theorem Spans.sublist {labels labels' : List Label} {b l b' l' : Nat}
    (h : Spans labels b l b' l') (hsub : labels'.Sublist labels) : Spans labels' b l b' l' :=
  ⟨h.nodup.sublist hsub, fun label hmem => h.between label (hsub.subset hmem), h.branches_le,
    h.loops_le⟩

private theorem spans_loopLabels (b l : Nat) (cond? : Option Condition) :
    Spans (loopLabels (l + 1) cond?) b l b (l + 1) where
  nodup := by
    cases cond? with
    | none => simp [loopLabels]
    | some cond =>
        have hpart : ∀ label ∈ guardLabels .loop (l + 1) cond, label.part? ≠ none :=
          fun label hmem => (of_mem_guardLabels hmem).2.2
        simp only [loopLabels, List.append_assoc]
        refine List.nodup_append.mpr ⟨by simp, List.nodup_append.mpr
          ⟨nodup_guardLabels .loop (l + 1) cond, by simp, ?_⟩, ?_⟩
        · rintro label hmem _ hmem' rfl
          simp only [List.mem_cons, List.not_mem_nil, or_false] at hmem'
          rcases hmem' with rfl | rfl <;> exact hpart _ hmem rfl
        · rintro label hmem _ hmem' rfl
          simp only [List.mem_cons, List.not_mem_nil, or_false, List.mem_append] at hmem hmem'
          rcases hmem' with hmem' | hmem'
          · rcases hmem with rfl | rfl <;> exact hpart _ hmem' rfl
          · rcases hmem with rfl | rfl <;> simp at hmem'
  between := by
    intro label hmem
    have hlabel : label.word = .loop ∧ label.number = l + 1 := by
      cases cond? with
      | none =>
          simp only [loopLabels, List.mem_cons, List.not_mem_nil, or_false] at hmem
          simp [hmem]
      | some cond =>
          simp only [loopLabels, List.mem_append, List.mem_cons, List.not_mem_nil, or_false]
            at hmem
          rcases hmem with ((rfl | rfl) | hmem) | rfl | rfl
          · simp
          · simp
          · have hguard := of_mem_guardLabels hmem
            simp [hguard]
          · simp
          · simp
    rw [Label.IsBetween, if_pos hlabel.1]
    omega
  branches_le := Nat.le_refl b
  loops_le := Nat.le_succ l

/-- The labels of a flow have the numbers that are given out in it. -/
theorem spans_labels (flow : Flow) (b l : Nat) :
    Spans (flow.labels b l) b l (b + flow.branches) (l + flow.loops) := by
  induction flow generalizing b l with
  | done => exact Spans.nil b l
  | simple statement rest ih => exact ih b l
  | declare declaration rest ih => exact ih b l
  | comment text rest ih => exact ih b l
  | branch cond body rest ihb ih =>
      have hown : Spans (branchLabels (b + 1) cond) b l (b + 1) l :=
        (spans_branchLabels b l cond).sublist (List.sublist_append_left _ _)
      have hspans := (hown.append (ihb (b + 1) l)).append
        (ih (b + 1 + body.branches) (l + body.loops))
      simpa only [Flow.labels, Flow.branches, Flow.loops, ← Nat.add_assoc] using hspans
  | choice cond body alternative rest ihb iha ih =>
      have hspans := (((spans_branchLabels b l cond).append (ihb (b + 1) l)).append
        (iha (b + 1 + body.branches) (l + body.loops))).append
        (ih (b + 1 + body.branches + alternative.branches)
          (l + body.loops + alternative.loops))
      simpa only [Flow.labels, Flow.branches, Flow.loops, ← Nat.add_assoc] using hspans
  | loop cond? body rest ihb ih =>
      have hspans := ((spans_loopLabels b l cond?).append (ihb b (l + 1))).append
        (ih (b + body.branches) (l + 1 + body.loops))
      simpa only [Flow.labels, Flow.branches, Flow.loops, ← Nat.add_assoc] using hspans

/-- The code of a flow defines no label twice, if simple statements define none. -/
theorem nodup_labelsOf_code {select : Statement → Option Leaf}
    (hselect : ∀ statement leaf, select statement = some leaf → leaf.label? = none)
    (name : String) (flow : Flow) (branches loops : Nat) :
    (labelsOf (flow.code select name branches loops)).Nodup := by
  rw [(labelsOf_code_perm hselect name flow branches loops).nodup_iff]
  refine (spans_labels flow branches loops).nodup.map ?_
  intro label label' h
  exact (Label.text_inj.mp h).2

end Shorthand
