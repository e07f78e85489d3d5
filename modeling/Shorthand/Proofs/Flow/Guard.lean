import Std.Data.String.ToNat
import Shorthand.Proofs.Flow.Machine

/-!
# Guards decide their conditions

A condition has a value for every assignment of integers to registers, and evaluating it from
left to right, as far as is needed, makes certain comparisons in a certain order.  The code of a
guard does the same: it makes the complements of these comparisons, and it leaves at its label
for true or at its end if the condition is true, and at its label for false otherwise.

## Strategy

The code of a part stands somewhere inside the code of the whole, so the induction is on the
condition, for code around it that is arbitrary (`decides_build`).  What the surroundings have to
grant is that every label is defined once; then the labels of a part lead to where its join put
them.  That the labels of one guard differ is a matter of numbers: `placed` lists the labels in
the order in which they are defined, by the numbers of their parts, and every part has a number
of its own.
-/

namespace Shorthand

open Machine

variable {σ : Type*}

/-! ## The value of a condition -/

namespace Condition

/-- Whether the condition is true when the registers have the given values. -/
def holds (read : Register → Int) : Condition → Bool
  | compare a cmp b => cmp.holds (read a) (read b)
  | both lhs rhs => lhs.holds read && rhs.holds read
  | either lhs rhs => lhs.holds read || rhs.holds read

/-- The comparisons that are made to find the value: from left to right, the second part of a
join only if the first one leaves the value open. -/
def tested (read : Register → Int) : Condition → List Comparison
  | compare a cmp b => [⟨a, cmp, b⟩]
  | both lhs rhs => lhs.tested read ++ if lhs.holds read then rhs.tested read else []
  | either lhs rhs => lhs.tested read ++ if lhs.holds read then [] else rhs.tested read

end Condition

namespace Guard

/-! ## The labels of a guard -/

/-- How many names are given to the parts of a condition: two for every join. -/
def parts : Condition → Nat
  | .compare _ _ _ => 0
  | .both lhs rhs | .either lhs rhs => 2 + parts lhs + parts rhs

@[simp] theorem build_given (base : String) (cond : Condition) (name : String) (given : Nat) :
    (build base cond name given).2 = given + parts cond := by
  induction cond generalizing name given with
  | compare a cmp b => rfl
  | both lhs rhs ihl ihr | either lhs rhs ihl ihr =>
      simp only [build, parts, ihl, ihr]
      omega

/-- One of the two labels of a part, by the number of the part. -/
def partLabel (base : String) (part : Nat × Bool) : String :=
  if part.2 then trueLabel (partName base part.1) else falseLabel (partName base part.1)

/-- The labels that the code of a condition defines, in order, by the numbers of their parts. -/
def placed : Condition → Nat → List (Nat × Bool)
  | .compare _ _ _, _ => []
  | .both lhs rhs, given =>
      placed lhs (given + 2) ++ [(given + 1, true)] ++ placed rhs (given + 2 + parts lhs) ++
        [(given + 2, true), (given + 1, false), (given + 2, false)]
  | .either lhs rhs, given =>
      placed lhs (given + 2) ++ [(given + 1, true), (given + 1, false)] ++
        placed rhs (given + 2 + parts lhs) ++ [(given + 2, true), (given + 2, false)]

theorem labelsOf_build (base : String) (cond : Condition) (name : String) (given : Nat) :
    labelsOf (build base cond name given).1 = (placed cond given).map (partLabel base) := by
  induction cond generalizing name given with
  | compare a cmp b => rfl
  | both lhs rhs ihl ihr => simp [build, joinBoth, placed, ihl, ihr, partLabel]
  | either lhs rhs ihl ihr => simp [build, joinEither, placed, ihl, ihr, partLabel]

/-- The parts of a condition are numbered from the names already given on. -/
theorem number_of_mem_placed {cond : Condition} {given : Nat} {part : Nat × Bool}
    (h : part ∈ placed cond given) : given < part.1 ∧ part.1 ≤ given + parts cond := by
  induction cond generalizing given with
  | compare a cmp b => simp [placed] at h
  | both lhs rhs ihl ihr | either lhs rhs ihl ihr =>
      simp only [placed, List.mem_append, List.mem_cons, List.not_mem_nil, or_false] at h
      simp only [parts]
      grind

/-- The numbers of the left parts, of the right parts and of the two parts themselves are
apart. -/
private theorem nodup_joined {lhs rhs : Condition} {given : Nat}
    (hl : (placed lhs (given + 2)).Nodup) (hr : (placed rhs (given + 2 + parts lhs)).Nodup) :
    ([(given + 1, true), (given + 1, false), (given + 2, true), (given + 2, false)] ++
      (placed lhs (given + 2) ++ placed rhs (given + 2 + parts lhs))).Nodup := by
  have hleft : ∀ part ∈ placed lhs (given + 2), given + 2 < part.1 :=
    fun part h => (number_of_mem_placed h).1
  have hright : ∀ part ∈ placed rhs (given + 2 + parts lhs), given + 2 < part.1 := by
    intro part h
    have := (number_of_mem_placed h).1
    omega
  refine List.nodup_append.mpr ⟨by simp, List.nodup_append.mpr ⟨hl, hr, ?_⟩, ?_⟩
  · rintro part hpart _ hpart' rfl
    have := number_of_mem_placed hpart
    have := number_of_mem_placed hpart'
    omega
  · rintro part hpart _ hpart' rfl
    have hsmall : part.1 ≤ given + 2 := by
      simp only [List.mem_cons, List.not_mem_nil, or_false] at hpart
      rcases hpart with rfl | rfl | rfl | rfl <;> simp
    rcases List.mem_append.mp hpart' with h | h
    · exact absurd (hleft part h) (Nat.not_lt.mpr hsmall)
    · exact absurd (hright part h) (Nat.not_lt.mpr hsmall)

theorem nodup_placed (cond : Condition) (given : Nat) : (placed cond given).Nodup := by
  induction cond generalizing given with
  | compare a cmp b => exact List.nodup_nil
  | both lhs rhs ihl ihr | either lhs rhs ihl ihr =>
      have hjoined := nodup_joined (ihl (given + 2)) (ihr (given + 2 + parts lhs))
      -- the labels of a part are defined after its code, so the order is another one
      refine (List.Perm.nodup_iff ?_).mp hjoined
      rw [List.perm_iff_count]
      intro part
      simp only [placed, List.count_append, List.count_cons, List.count_nil]
      omega

/-! ## The labels of different parts differ -/

theorem trueLabel_inj {name name' : String} : trueLabel name = trueLabel name' ↔ name = name' :=
  String.append_left_inj _

theorem falseLabel_inj {name name' : String} :
    falseLabel name = falseLabel name' ↔ name = name' :=
  String.append_left_inj _

theorem trueLabel_ne_falseLabel (name name' : String) : trueLabel name ≠ falseLabel name' := by
  intro h
  have hlast := congrArg (fun text => text.toList.getLast?) h
  simp [trueLabel, falseLabel] at hlast

theorem partName_inj {base : String} {number number' : Nat} :
    partName base number = partName base number' ↔ number = number' := by
  rw [partName, partName, String.append_right_inj]
  exact Nat.repr_inj

theorem partLabel_injective (base : String) : Function.Injective (partLabel base) := by
  rintro ⟨number, value⟩ ⟨number', value'⟩ h
  cases value <;> cases value' <;>
    simp_all [partLabel, trueLabel_inj, falseLabel_inj, partName_inj, trueLabel_ne_falseLabel,
      (trueLabel_ne_falseLabel _ _).symm]

theorem nodup_labelsOf_build (base : String) (cond : Condition) (name : String) (given : Nat) :
    (labelsOf (build base cond name given).1).Nodup := by
  rw [labelsOf_build]
  exact (nodup_placed cond given).map (partLabel_injective base)

/-! ## Running the code of a condition -/

variable {M : Interpretation σ} {code : List Leaf}

/-- Where the code of a condition is left: at its end or at its label for true if the condition
is true, and at its label for false otherwise. -/
def LeavesAt (code : List Leaf) (name : String) (after : Nat) (value : Bool) (spot : Spot) :
    Prop :=
  if value then spot = .line after ∨ spot = spotOf code (trueLabel name)
  else spot = spotOf code (falseLabel name)

/-- With its label for true right after it, code is left there if its condition is true. -/
theorem LeavesAt.eq_after {name : String} {after : Nat} {spot : Spot} {piece : List Leaf}
    (h : LeavesAt code name after true spot) (hnodup : (labelsOf code).Nodup)
    (hlabel : Holds code after (.label (trueLabel name) :: piece)) : spot = .line after := by
  rcases h with h | h
  · exact h
  · rw [h, spotOf_eq_line hnodup hlabel]

theorem LeavesAt.eq_false {name : String} {after n : Nat} {spot : Spot} {piece : List Leaf}
    (h : LeavesAt code name after false spot) (hnodup : (labelsOf code).Nodup)
    (hlabel : Holds code n (.label (falseLabel name) :: piece)) : spot = .line n := by
  have hspot : spot = spotOf code (falseLabel name) := h
  rw [hspot, spotOf_eq_line hnodup hlabel]

/-- What there is to say about the code of a condition that stands from line `n` to line
`after`: it ends without a change of the state, at the right place, and makes the right
comparisons. -/
def Decides (M : Interpretation σ) (code : List Leaf) (cond : Condition) (name : String)
    (n after : Nat) (s : σ) : Prop :=
  ∃ trace spot, Run M code ⟨.line n, s⟩ trace ⟨spot, s⟩ ∧
    comparisonsOf trace = (cond.tested (M.register s)).map Comparison.complement ∧
    LeavesAt code name after (cond.holds (M.register s)) spot

private theorem decides_compare {a b name : String} {cmp : Comparator} {n : Nat}
    (h : Holds code n [.jumpIf cmp.branchUnless a b (falseLabel name)]) (s : σ) :
    Decides M code (.compare a cmp b) name n (n + 1) s := by
  refine ⟨_, _, Run.jumpIf h s, ?_, ?_⟩
  · simp [Condition.tested, Comparison.complement]
  · cases hvalue : cmp.holds (M.register s a) (M.register s b) <;>
      simp [LeavesAt, Condition.holds, hvalue]

private theorem decides_both {lhs rhs : Condition} {name left right : String}
    {leftCode rightCode : List Leaf} {n : Nat} {s : σ} (hnodup : (labelsOf code).Nodup)
    (h : Holds code n (joinBoth name left right leftCode rightCode))
    (hl : Decides M code lhs left n (n + leftCode.length) s)
    (hr : Decides M code rhs right (n + leftCode.length + 1)
      (n + leftCode.length + 1 + rightCode.length) s) :
    Decides M code (.both lhs rhs) name n
      (n + (joinBoth name left right leftCode rightCode).length) s := by
  have hleft : Holds code (n + leftCode.length) [.label (trueLabel left)] := h.left.left.right
  have hend : Holds code (n + leftCode.length + 1 + rightCode.length)
      [.label (trueLabel right), .jump (trueLabel name), .label (falseLabel left),
        .label (falseLabel right), .jump (falseLabel name)] := by
    simpa [Nat.add_assoc, Nat.add_comm, Nat.add_left_comm] using h.right
  obtain ⟨trace, spot, hrun, htrace, hspot⟩ := hl
  cases hvalue : lhs.holds (M.register s) with
  | false =>
      -- the code of the right part is not reached
      rw [hvalue] at hspot
      obtain rfl := hspot.eq_false hnodup hend.tail.tail
      refine ⟨_, _, ((hrun.trans (.label hend.tail.tail s)).trans
        (.label hend.tail.tail.tail s)).trans (.jump hend.tail.tail.tail.tail s), ?_, ?_⟩
      · simp [htrace, Condition.tested, hvalue]
      · simp [LeavesAt, Condition.holds, hvalue]
  | true =>
      rw [hvalue] at hspot
      obtain rfl := hspot.eq_after hnodup hleft
      obtain ⟨trace', spot', hrun', htrace', hspot'⟩ := hr
      have hsofar := (hrun.trans (.label hleft s)).trans hrun'
      cases hvalue' : rhs.holds (M.register s) with
      | false =>
          rw [hvalue'] at hspot'
          obtain rfl := hspot'.eq_false hnodup hend.tail.tail.tail
          refine ⟨_, _, (hsofar.trans (.label hend.tail.tail.tail s)).trans
            (.jump hend.tail.tail.tail.tail s), ?_, ?_⟩
          · simp [htrace, htrace', Condition.tested, hvalue]
          · simp [LeavesAt, Condition.holds, hvalue, hvalue']
      | true =>
          rw [hvalue'] at hspot'
          obtain rfl := hspot'.eq_after hnodup hend
          refine ⟨_, _, (hsofar.trans (.label hend s)).trans (.jump hend.tail s), ?_, ?_⟩
          · simp [htrace, htrace', Condition.tested, hvalue]
          · simp [LeavesAt, Condition.holds, hvalue, hvalue']

private theorem decides_either {lhs rhs : Condition} {name left right : String}
    {leftCode rightCode : List Leaf} {n : Nat} {s : σ} (hnodup : (labelsOf code).Nodup)
    (h : Holds code n (joinEither name left right leftCode rightCode))
    (hl : Decides M code lhs left n (n + leftCode.length) s)
    (hr : Decides M code rhs right (n + leftCode.length + 3)
      (n + leftCode.length + 3 + rightCode.length) s) :
    Decides M code (.either lhs rhs) name n
      (n + (joinEither name left right leftCode rightCode).length) s := by
  have hleft : Holds code (n + leftCode.length)
      [.label (trueLabel left), .jump (trueLabel name), .label (falseLabel left)] :=
    h.left.left.right
  have hend : Holds code (n + leftCode.length + 3 + rightCode.length)
      [.label (trueLabel right), .jump (trueLabel name), .label (falseLabel right),
        .jump (falseLabel name)] := by
    simpa [Nat.add_assoc, Nat.add_comm, Nat.add_left_comm] using h.right
  obtain ⟨trace, spot, hrun, htrace, hspot⟩ := hl
  cases hvalue : lhs.holds (M.register s) with
  | true =>
      -- the jump to the label for true goes around the code of the right part
      rw [hvalue] at hspot
      obtain rfl := hspot.eq_after hnodup hleft
      refine ⟨_, _, (hrun.trans (.label hleft s)).trans (.jump hleft.tail s), ?_, ?_⟩
      · simp [htrace, Condition.tested, hvalue]
      · simp [LeavesAt, Condition.holds, hvalue]
  | false =>
      rw [hvalue] at hspot
      obtain rfl := hspot.eq_false hnodup hleft.tail.tail
      obtain ⟨trace', spot', hrun', htrace', hspot'⟩ := hr
      have hsofar := (hrun.trans (.label hleft.tail.tail s)).trans hrun'
      cases hvalue' : rhs.holds (M.register s) with
      | false =>
          rw [hvalue'] at hspot'
          obtain rfl := hspot'.eq_false hnodup hend.tail.tail
          refine ⟨_, _, (hsofar.trans (.label hend.tail.tail s)).trans
            (.jump hend.tail.tail.tail s), ?_, ?_⟩
          · simp [htrace, htrace', Condition.tested, hvalue]
          · simp [LeavesAt, Condition.holds, hvalue, hvalue']
      | true =>
          rw [hvalue'] at hspot'
          obtain rfl := hspot'.eq_after hnodup hend
          refine ⟨_, _, (hsofar.trans (.label hend s)).trans (.jump hend.tail s), ?_, ?_⟩
          · simp [htrace, htrace', Condition.tested, hvalue]
          · simp [LeavesAt, Condition.holds, hvalue, hvalue']

/-- The code of a condition decides it, wherever the code stands, if every label around it is
defined once. -/
theorem decides_build (hnodup : (labelsOf code).Nodup) (base : String) (cond : Condition)
    {name : String} {given n : Nat} (h : Holds code n (build base cond name given).1) (s : σ) :
    Decides M code cond name n (n + (build base cond name given).1.length) s := by
  induction cond generalizing name given n with
  | compare a cmp b => exact decides_compare h s
  | both lhs rhs ihl ihr =>
      refine decides_both hnodup h (ihl h.left.left.left) (ihr ?_)
      simpa [Nat.add_assoc] using h.left.right
  | either lhs rhs ihl ihr =>
      refine decides_either hnodup h (ihl h.left.left.left) (ihr ?_)
      simpa [Nat.add_assoc] using h.left.right

/-! ## A guard on its own -/

theorem partName_ne (base : String) (number : Nat) : partName base number ≠ base := by
  intro h
  have hlength := congrArg String.length h
  have hmark : "_c".length = 2 := rfl
  simp only [partName, String.length_append] at hlength
  omega

/-- The two labels of the whole condition are left to whoever uses the guard. -/
theorem not_mem_labelsOf_guard (cond : Condition) (name : String) :
    trueLabel name ∉ labelsOf (cond.guard name) ∧
      falseLabel name ∉ labelsOf (cond.guard name) := by
  unfold Condition.guard
  rw [labelsOf_build]
  constructor
  all_goals
    intro h
    obtain ⟨⟨number, value⟩, -, hlabel⟩ := List.mem_map.mp h
    cases value
  · exact trueLabel_ne_falseLabel _ _ hlabel.symm
  · exact partName_ne name number (trueLabel_inj.mp hlabel)
  · exact partName_ne name number (falseLabel_inj.mp hlabel)
  · exact trueLabel_ne_falseLabel _ _ hlabel

end Guard

/-- **A guard decides its condition.**  Run on its own from its first line, the code of a guard
has exactly one run that gets out of it.  That run changes nothing, makes the complements of the
comparisons of an evaluation from left to right, leaves by a branch to the label for true or at
the end if the condition is true, and leaves by a branch to the label for false otherwise. -/
theorem Condition.guard_decides (M : Interpretation σ) (cond : Condition) (name : String) (s : σ) :
    ∃ trace spot,
      (∀ trace' final, (Run M (cond.guard name) ⟨.line 0, s⟩ trace' final ∧
          final.spot.IsOutside (cond.guard name)) ↔ trace' = trace ∧ final = ⟨spot, s⟩) ∧
        comparisonsOf trace = (cond.tested (M.register s)).map Comparison.complement ∧
        (cond.holds (M.register s) = true →
          spot = .label (trueLabel name) ∨ spot = .line (cond.guard name).length) ∧
        (cond.holds (M.register s) = false → spot = .label (falseLabel name)) := by
  have hnodup := Guard.nodup_labelsOf_build name cond name 0
  obtain ⟨htrue, hfalse⟩ := Guard.not_mem_labelsOf_guard cond name
  obtain ⟨trace, spot, hrun, htrace, hspot⟩ :=
    Guard.decides_build (M := M) hnodup name cond (Holds.self _) s
  -- the labels of the whole condition are not in its guard, so a branch to them leaves it
  have hexit : (cond.holds (M.register s) = true →
        spot = .label (trueLabel name) ∨ spot = .line (cond.guard name).length) ∧
      (cond.holds (M.register s) = false → spot = .label (falseLabel name)) := by
    rw [← spotOf_eq_label htrue, ← spotOf_eq_label hfalse]
    cases hvalue : cond.holds (M.register s) <;>
      simpa [Guard.LeavesAt, hvalue, Condition.guard, or_comm] using hspot
  have hout : spot.IsOutside (cond.guard name) := by
    cases hvalue : cond.holds (M.register s) with
    | true => rcases hexit.1 hvalue with rfl | rfl <;> simp [Spot.IsOutside]
    | false =>
        rw [hexit.2 hvalue]
        trivial
  refine ⟨trace, spot, fun trace' final => ⟨?_, ?_⟩, htrace, hexit⟩
  · -- a machine has no choice, so two runs that get out are the same
    rintro ⟨hrun', hout'⟩
    exact hrun.unique hout hrun' hout'
  · rintro ⟨rfl, rfl⟩
    exact ⟨hrun, hout⟩

end Shorthand
