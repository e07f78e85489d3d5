import Mathlib.Tactic.Common
import Shorthand.Listing.Block
import Shorthand.Statement.Condition
import Shorthand.Statement.Declaration

/-!
# Reading operands by position

The readers take tokens off the front of a list.  Tokens that are kept in a sequence are read by
position instead: a function looks at the token with an index, hands a slice of the sequence to
another function, and is told how many tokens that one used.  Then every index and every slice can
be out of range, and whether one is depends on counts that came from elsewhere.

Here the readers of operands are written in that way.  A position out of range is a `Trap`, from
which there is no return; a problem of the source is an error like before.  Every function is
followed by what it does: it is never trapped, and reads what the reader of the same operand reads,
with a count of the tokens that it takes.
-/

namespace Shorthand

open Machine

/-- What must not happen. -/
inductive Trap where
  /-- A position is outside of the sequence. -/
  | outOfRange
  /-- There is no block to add to. -/
  | noAppendPoint
  /-- A loop has made more turns than there can be. -/
  | endless
  | fault (fault : Fault)
deriving DecidableEq

/-- A result, an error, or neither because of a trap. -/
inductive Attempt (ε α : Type) where
  | trapped (trap : Trap)
  | error (problem : ε)
  | ok (value : α)

namespace Attempt

variable {ε α β : Type}

/-- Goes on with the result. -/
def bind : Attempt ε α → (α → Attempt ε β) → Attempt ε β
  | trapped trap, _ => trapped trap
  | error problem, _ => error problem
  | ok value, next => next value

instance : Monad (Attempt ε) where
  pure := ok
  bind := bind

instance : LawfulMonad (Attempt ε) := LawfulMonad.mk' (Attempt ε)
  (by rintro α (_ | _ | _) <;> rfl) (fun _ _ => rfl) (by rintro α β γ (_ | _ | _) _ _ <;> rfl)

@[simp] theorem pure_eq (value : α) : (pure value : Attempt ε α) = ok value := rfl

@[simp] theorem ok_bind (value : α) (next : α → Attempt ε β) : (ok value >>= next) = next value :=
  rfl

/-- A result that no trap can take away. -/
def safe : Except ε α → Attempt ε α
  | .error problem => error problem
  | .ok value => ok value

@[simp] theorem safe_ok (value : α) : safe (.ok value : Except ε α) = ok value := rfl

@[simp] theorem safe_pure (value : α) : safe (pure value : Except ε α) = ok value := rfl

@[simp] theorem safe_failWith (code : Code) (texts : List String) :
    safe (failWith code texts : Except Problem α) = error (.withTexts code texts) := rfl

theorem safe_bind (result : Except ε α) (next : α → Except ε β) :
    safe (result >>= next) = safe result >>= fun value => safe (next value) := by
  cases result <;> rfl

theorem safe_mapM {results : α → Except ε β} {attempt : α → Attempt ε β} (values : List α)
    (h : ∀ value ∈ values, attempt value = safe (results value)) :
    values.mapM attempt = safe (values.mapM results) := by
  induction values with
  | nil => rfl
  | cons value values ih =>
      have hrest := ih fun other hother => h other (List.mem_cons_of_mem _ hother)
      simp only [List.mapM_cons, safe_bind, h value (List.mem_cons_self ..), hrest, safe_pure,
        pure_eq]

end Attempt

theorem except_ok_bind {ε α β : Type} (value : α) (next : α → Except ε β) :
    (Except.ok value >>= next) = next value := rfl

namespace Indexed

open Attempt

variable {ε α : Type}

/-! ## Access -/

/-- The value at an index. -/
def index (values : List α) (i : Nat) : Attempt ε α :=
  match values[i]? with
  | some value => .ok value
  | none => .trapped .outOfRange

/-- The values from a position on. -/
def sliceFrom (values : List α) (start : Nat) : Attempt ε (List α) :=
  if start ≤ values.length then .ok (values.drop start) else .trapped .outOfRange

/-- The values up to a position. -/
def sliceTo (values : List α) (stop : Nat) : Attempt ε (List α) :=
  if stop ≤ values.length then .ok (values.take stop) else .trapped .outOfRange

/-- The values between two positions. -/
def slice (values : List α) (start stop : Nat) : Attempt ε (List α) :=
  if start ≤ stop ∧ stop ≤ values.length then .ok ((values.take stop).drop start)
  else .trapped .outOfRange

/-- Both conditions; the second one is looked at only if the first one holds. -/
def andAlso (first : Bool) (second : Attempt ε Bool) : Attempt ε Bool :=
  if first then second else .ok false

/-- One of the conditions; the second one is looked at only if the first one does not hold. -/
def orElse (first : Bool) (second : Attempt ε Bool) : Attempt ε Bool :=
  if first then .ok true else second

/-- Whether the token at a position is not the given one, or is not there. -/
def lacks (tokens : List Token) (i : Nat) (text : String) : Attempt ε Bool :=
  orElse (tokens.length ≤ i) do return !(← index tokens i).is text

section access

variable (value : α) (before values : List α) (i : Nat) (second : Attempt ε Bool)

@[simp] theorem index_zero : (index (value :: values) 0 : Attempt ε α) = .ok value := rfl

@[simp] theorem index_succ :
    (index (value :: values) (i + 1) : Attempt ε α) = index values i := by
  simp [index]

theorem index_length : (index (before ++ value :: values) before.length : Attempt ε α) =
    .ok value := by
  simp [index]

@[simp] theorem sliceFrom_zero : (sliceFrom values 0 : Attempt ε (List α)) = .ok values := by
  simp [sliceFrom]

@[simp] theorem sliceFrom_succ :
    (sliceFrom (value :: values) (i + 1) : Attempt ε (List α)) = sliceFrom values i := by
  simp [sliceFrom]

@[simp] theorem sliceFrom_length :
    (sliceFrom (before ++ values) before.length : Attempt ε (List α)) = .ok values := by
  simp [sliceFrom]

@[simp] theorem sliceTo_length :
    (sliceTo (before ++ values) before.length : Attempt ε (List α)) = .ok before := by
  simp [sliceTo]

theorem lacks_length (used : List Token) (text : String) :
    (lacks used used.length text : Attempt ε Bool) = .ok true := by
  rw [lacks, decide_eq_true (Nat.le_refl _)]
  rfl

theorem lacks_append (used rest : List Token) (tok : Token) (text : String) :
    (lacks (used ++ tok :: rest) used.length text : Attempt ε Bool) = .ok (!tok.is text) := by
  rw [lacks, index_length tok used rest, decide_eq_false (by simp)]
  rfl

@[simp] theorem lacks_zero (tok : Token) (rest : List Token) (text : String) :
    (lacks (tok :: rest) 0 text : Attempt ε Bool) = .ok (!tok.is text) := rfl

@[simp] theorem andAlso_true : andAlso true second = second := rfl

@[simp] theorem andAlso_false : andAlso false second = .ok false := rfl

theorem andAlso_ok (first second : Bool) :
    (andAlso first (.ok second) : Attempt ε Bool) = .ok (first && second) := by
  cases first <;> rfl

@[simp] theorem orElse_true : orElse true second = .ok true := rfl

@[simp] theorem orElse_false : orElse false second = second := rfl

end access

/-- A reading by position is one off the front: there is the same problem or the same value, and the
number of tokens that are used is the number of those that are taken off. -/
def Reads (tokens : List Token) (attempt : Attempt Problem (α × Nat))
    (read : Except Problem (Reading α)) : Prop :=
  (∃ problem, attempt = .error problem ∧ read = .error problem) ∨
    ∃ value used rest, tokens = used ++ rest ∧ attempt = .ok (value, used.length) ∧
      read = .ok (value, rest)

/-- The same for a reading that always takes one token. -/
def ReadsOne (tokens : List Token) (attempt : Attempt Problem α)
    (read : Except Problem (Reading α)) : Prop :=
  (∃ problem, attempt = .error problem ∧ read = .error problem) ∨
    ∃ value tok rest, tokens = tok :: rest ∧ attempt = .ok value ∧ read = .ok (value, rest)

/-! ## Immediate values -/

/-- The number of tokens that were used, and what was read.  The number is given with a problem
too. -/
abbrev Counted (α : Type) := Nat × Except Problem α

/-- What was read with the number of tokens, unless there was a problem. -/
def Counted.value (counted : Counted α) : Attempt Problem (α × Nat) := do
  return (← safe counted.2, counted.1)

/-- Reads an immediate value. -/
def countImmediate (tokens : List Token) : Attempt Problem (Counted Immediate) :=
  if tokens.length = 0 then .ok (0, failWith .expected ["value", ""])
  else do
    let first ← index tokens 0
    let negated ← andAlso (first.is "-" && 1 < tokens.length) do
      return (← index tokens 1).kind == .number
    if negated then
      let next ← index tokens 1
      return (2, tokenImmediate { next with text := "-" ++ next.text })
    else return (1, tokenImmediate first)

/-- Reads an immediate value, and gives up on a problem. -/
def immediate (tokens : List Token) : Attempt Problem (Immediate × Nat) := do
  (← countImmediate tokens).value

/-- Reads a register or an immediate value. -/
def countOperand (tokens : List Token) : Attempt Problem (Counted Operand) := do
  let isRegister ← andAlso (0 < tokens.length) do return (← index tokens 0).isRegister
  if isRegister then return (1, .ok (.register (← index tokens 0).text))
  else
    let (used, value) ← countImmediate tokens
    return (used, value.map Operand.immediate)

/-- Reads a register or an immediate value, and gives up on a problem. -/
def operand (tokens : List Token) : Attempt Problem (Operand × Nat) := do
  (← countOperand tokens).value

/-- The number of tokens is right, whether there is a problem or not. -/
def Counts (tokens : List Token) (attempt : Attempt Problem (Counted α))
    (read : Except Problem (Reading α)) : Prop :=
  ∃ used rest value, tokens = used ++ rest ∧ attempt = .ok (used.length, value) ∧
    read = value.map fun value => (value, rest)

theorem Counts.reads {tokens : List Token} {attempt : Attempt Problem (Counted α)}
    {read : Except Problem (Reading α)} (h : Counts tokens attempt read) :
    Reads tokens (attempt >>= Counted.value) read := by
  obtain ⟨used, rest, value, htokens, rfl, rfl⟩ := h
  cases value with
  | error problem => exact .inl ⟨problem, rfl, rfl⟩
  | ok value => exact .inr ⟨value, used, rest, htokens, rfl, rfl⟩

theorem countImmediate_counts (tokens : List Token) :
    Counts tokens (countImmediate tokens) (readImmediate tokens) := by
  match tokens with
  | [] => exact ⟨[], [], _, rfl, rfl, rfl⟩
  | [tok] =>
      refine ⟨[tok], [], tokenImmediate tok, rfl, by simp [countImmediate], ?_⟩
      rw [readImmediate]
      cases tokenImmediate tok <;> rfl
  | tok :: next :: rest =>
      by_cases hnegated : (tok.is "-" && next.kind == .number) = true
      · obtain ⟨hminus, hnumber⟩ := Bool.and_eq_true_iff.mp hnegated
        have hkind : next.kind = .number := by simpa using hnumber
        refine ⟨[tok, next], rest, numberImmediate ("-" ++ next.text), rfl, ?_, ?_⟩
        · simp [countImmediate, hminus, hkind, tokenImmediate]
        · rw [readImmediate, if_pos hnegated]
          cases numberImmediate ("-" ++ next.text) <;> rfl
      · refine ⟨[tok], next :: rest, tokenImmediate tok, rfl, ?_, ?_⟩
        · cases hminus : tok.is "-" with
          | false => simp [countImmediate, hminus]
          | true =>
              have hkind : (next.kind == .number) = false := by simpa [hminus] using hnegated
              simp [countImmediate, hminus, hkind]
        · rw [readImmediate, if_neg hnegated]
          cases tokenImmediate tok <;> rfl

theorem immediate_reads (tokens : List Token) :
    Reads tokens (immediate tokens) (readImmediate tokens) :=
  (countImmediate_counts tokens).reads

theorem countOperand_counts (tokens : List Token) :
    Counts tokens (countOperand tokens) (readOperand tokens) := by
  cases tokens with
  | nil => exact ⟨[], [], _, rfl, rfl, rfl⟩
  | cons tok rest =>
      by_cases hregister : tok.isRegister = true
      · refine ⟨[tok], rest, .ok (.register tok.text), rfl, by simp [countOperand, hregister], ?_⟩
        rw [readOperand, if_pos hregister]
        rfl
      · obtain ⟨used, rest', value, htokens, hcount, hread⟩ :=
          countImmediate_counts (tok :: rest)
        refine ⟨used, rest', value.map Operand.immediate, htokens, ?_, ?_⟩
        · simp [countOperand, hregister, hcount]
        · rw [readOperand, if_neg hregister, hread]
          cases value <;> rfl

theorem operand_reads (tokens : List Token) :
    Reads tokens (operand tokens) (readOperand tokens) :=
  (countOperand_counts tokens).reads

/-! ## Registers and names -/

/-- Reads the text of a token of the right form, for which one token is used. -/
def single (isRight : Token → Bool) (missing : Problem) (wrong : Token → Problem)
    (tokens : List Token) : Attempt Problem String :=
  if tokens.length = 0 then .error missing
  else do
    let tok ← index tokens 0
    if isRight tok then return tok.text else .error (wrong tok)

theorem single_reads {isRight : Token → Bool} {missing : Problem} {wrong : Token → Problem}
    {read : List Token → Except Problem (Reading String)} (hnil : read [] = .error missing)
    (hcons : ∀ tok rest, read (tok :: rest) =
      if isRight tok then .ok (tok.text, rest) else .error (wrong tok))
    (tokens : List Token) :
    ReadsOne tokens (single isRight missing wrong tokens) (read tokens) := by
  cases tokens with
  | nil => exact .inl ⟨missing, rfl, hnil⟩
  | cons tok rest =>
      rw [hcons]
      by_cases hright : isRight tok = true
      · exact .inr ⟨tok.text, tok, rest, rfl, by simp [single, hright], by simp [hright]⟩
      · exact .inl ⟨wrong tok, by simp [single, hright], by simp [hright]⟩

/-- Reads a register. -/
def register : List Token → Attempt Problem Register :=
  single Token.isRegister (.withTexts .expected ["register", ""]) fun tok =>
    .withTexts .registerExpected [tok.print]

theorem register_reads (tokens : List Token) :
    ReadsOne tokens (register tokens) (readRegister tokens) :=
  single_reads rfl (fun _ _ => rfl) tokens

/-- Reads the name that is declared. -/
def name : List Token → Attempt Problem String :=
  single Token.isName (.withTexts .nameInvalid [""]) fun tok => .withTexts .nameInvalid [tok.print]

theorem name_reads (tokens : List Token) : ReadsOne tokens (name tokens) (readName tokens) :=
  single_reads rfl (fun _ _ => rfl) tokens

/-! ## Brackets and casts -/

/-- Reads an immediate value in brackets, of which the opening one is there. -/
def bracketed (tokens : List Token) : Attempt Problem (Immediate × Nat) := do
  let (value, used) ← immediate (← sliceFrom tokens 1)
  if ← lacks tokens (used + 1) "]" then
    let seen ← sliceTo tokens (used + 1)
    safe (failWith .bracketUnterminated [joinTokens seen])
  else return (value, used + 1 + 1)

theorem bracketed_reads (bracket : Token) (tokens : List Token) :
    Reads (bracket :: tokens) (bracketed (bracket :: tokens)) (readBracketed bracket tokens) := by
  unfold bracketed readBracketed
  rw [sliceFrom_succ, sliceFrom_zero, ok_bind]
  rcases immediate_reads tokens with
    ⟨problem, hattempt, hread⟩ | ⟨value, used, rest, rfl, hattempt, hread⟩
  · exact .inl ⟨problem, by rw [hattempt]; rfl, by rw [hread]; rfl⟩
  rw [hattempt, hread, ok_bind, except_ok_bind]
  have hseen : (used ++ rest).take ((used ++ rest).length - rest.length) = used := by simp
  have hslice : (sliceTo (bracket :: (used ++ rest)) (used.length + 1) :
      Attempt Problem (List Token)) = .ok (bracket :: used) := by simp [sliceTo]
  dsimp only
  rw [hseen]
  let unterminated := Problem.withTexts .bracketUnterminated [joinTokens (bracket :: used)]
  cases rest with
  | nil =>
      have hlacks : (lacks (bracket :: used) (used.length + 1) "]" : Attempt Problem Bool) =
          .ok true := lacks_length (bracket :: used) "]"
      rw [List.append_nil] at hslice ⊢
      refine .inl ⟨unterminated, ?_, rfl⟩
      simp [hlacks, hslice, unterminated]
  | cons tok rest =>
      have hlacks : (lacks (bracket :: (used ++ tok :: rest)) (used.length + 1) "]" :
          Attempt Problem Bool) = .ok (!tok.is "]") := lacks_append (bracket :: used) rest tok "]"
      rw [hlacks, ok_bind]
      dsimp only
      by_cases hclose : tok.is "]" = true
      · refine .inr ⟨value, bracket :: used ++ [tok], rest, by simp, by simp [hclose], ?_⟩
        rw [if_pos hclose]
        rfl
      · refine .inl ⟨unterminated, ?_, ?_⟩
        · simp [hclose, hslice, unterminated]
        · rw [if_neg hclose]
          rfl

/-- Reads an offset in brackets, which is zero if there are none. -/
def offset (tokens : List Token) : Attempt Problem (Immediate × Nat) := do
  if ← lacks tokens 0 "[" then return (.number "0", 0) else bracketed tokens

theorem offset_reads (tokens : List Token) :
    Reads tokens (offset tokens) (readIndex tokens) := by
  cases tokens with
  | nil => exact .inr ⟨.number "0", [], [], rfl, rfl, rfl⟩
  | cons tok rest =>
      rw [offset, lacks_zero, ok_bind, readIndex]
      by_cases hopen : tok.is "[" = true
      · simp only [hopen, if_true, Bool.not_true]
        exact bracketed_reads tok rest
      · simp only [hopen, Bool.not_false]
        exact .inr ⟨.number "0", [], tok :: rest, rfl, rfl, rfl⟩

/-- Reads a size in brackets. -/
def size (tokens : List Token) : Attempt Problem (Immediate × Nat) := do
  if ← lacks tokens 0 "[" then safe (failWith .expected ["[", joinTokens tokens])
  else bracketed tokens

theorem size_reads (tokens : List Token) : Reads tokens (size tokens) (readSize tokens) := by
  cases tokens with
  | nil => exact .inl ⟨_, rfl, rfl⟩
  | cons tok rest =>
      rw [size, lacks_zero, ok_bind, readSize]
      by_cases hopen : tok.is "[" = true
      · simp only [hopen, if_true, Bool.not_true]
        exact bracketed_reads tok rest
      · simp only [hopen, Bool.not_false]
        exact .inl ⟨_, rfl, rfl⟩

/-- Reads a cast in parentheses, if there is one. -/
def cast (tokens : List Token) : Attempt Problem (Option Cast × Nat) := do
  if ← lacks tokens 0 "(" then return (none, 0)
  else if ← lacks tokens 2 ")" then safe (failWith .expected [")", joinTokens tokens])
  else
    let word ← index tokens 1
    match if word.kind == .ident then Cast.ofName? word.text else none with
    | none => safe (failWith .castUnknown [word.print])
    | some cast => return (some cast, 3)

theorem cast_reads (tokens : List Token) : Reads tokens (cast tokens) (readCast tokens) := by
  cases tokens with
  | nil => exact .inr ⟨none, [], [], rfl, rfl, rfl⟩
  | cons first rest =>
      unfold cast readCast
      rw [lacks_zero, ok_bind]
      by_cases hopen : first.is "(" = true
      swap
      · simp only [hopen, Bool.not_false]
        exact .inr ⟨none, [], first :: rest, rfl, rfl, rfl⟩
      simp only [hopen, if_true, Bool.not_true]
      match rest with
      | [] => exact .inl ⟨_, rfl, rfl⟩
      | [word] => exact .inl ⟨_, rfl, rfl⟩
      | word :: last :: rest =>
          have hlacks : (lacks (first :: word :: last :: rest) 2 ")" : Attempt Problem Bool) =
              .ok (!last.is ")") := lacks_append [first, word] rest last ")"
          rw [hlacks, ok_bind]
          by_cases hclose : last.is ")" = true
          swap
          · simp only [hclose, Bool.not_false]
            exact .inl ⟨_, rfl, rfl⟩
          simp only [hclose, if_true, Bool.not_true, Bool.false_eq_true, if_false, index_succ,
            index_zero, ok_bind]
          cases hcast : if word.kind == .ident then Cast.ofName? word.text else none with
          | none => exact .inl ⟨_, rfl, rfl⟩
          | some cast => exact .inr ⟨some cast, [first, word, last], rest, rfl, rfl, rfl⟩

/-! ## Conditions -/

/-- Goes on with the tokens from a position on, which are given too; the part that is looked at
starts at `start`. -/
def splitFrom (separator : String) (all : List Token) (parts : List (List Token))
    (start position : Nat) : List Token → Attempt ε (List (List Token))
  | [] => do return parts ++ [← sliceFrom all start]
  | tok :: rest =>
      if tok.isOp separator then do
        let part ← slice all start position
        splitFrom separator all (parts ++ [part]) (position + 1) (position + 1) rest
      else splitFrom separator all parts start (position + 1) rest

/-- The tokens between the operators `separator`. -/
def splitOn (separator : String) (tokens : List Token) : Attempt ε (List (List Token)) :=
  splitFrom separator tokens [] 0 0 tokens

theorem exists_splitAtOp_eq_cons (separator : String) (tokens : List Token) :
    ∃ part parts, splitAtOp separator tokens = part :: parts := by
  cases tokens with
  | nil => exact ⟨_, _, rfl⟩
  | cons tok rest =>
      rw [splitAtOp]
      repeat' split
      all_goals exact ⟨_, _, rfl⟩

-- The part that is looked at goes on with the first part of what is left.
theorem splitFrom_eq (separator : String) (before part rest : List Token)
    (parts : List (List Token)) :
    (splitFrom separator (before ++ part ++ rest) parts before.length
      (before.length + part.length) rest : Attempt ε (List (List Token))) =
      .ok (parts ++ (splitAtOp separator rest).modifyHead (part ++ ·)) := by
  induction rest generalizing before part parts with
  | nil =>
      rw [splitFrom, List.append_nil, sliceFrom_length]
      simp [splitAtOp]
  | cons tok rest ih =>
      rw [splitFrom, splitAtOp]
      by_cases hseparates : tok.isOp separator = true
      · have hslice : (slice (before ++ part ++ tok :: rest) before.length
            (before.length + part.length) : Attempt ε (List Token)) = .ok part := by
          rw [slice, if_pos (by simp), ← List.length_append, List.take_left, List.drop_left]
        have hih := ih (before ++ part ++ [tok]) [] (parts ++ [part])
        simp only [List.append_nil, List.append_assoc, List.singleton_append, List.length_append,
          List.length_cons, List.length_nil, List.nil_append, Nat.add_zero, ← Nat.add_assoc]
          at hih hslice ⊢
        obtain ⟨first, others, hparts⟩ := exists_splitAtOp_eq_cons separator rest
        simp [hseparates, hslice, hih, hparts]
      · have hih := ih before (part ++ [tok]) parts
        simp only [List.append_assoc, List.singleton_append, List.length_append, List.length_cons,
          List.length_nil, Nat.zero_add, ← Nat.add_assoc] at hih ⊢
        obtain ⟨first, others, hparts⟩ := exists_splitAtOp_eq_cons separator rest
        simp [hseparates, hih, hparts]

@[simp] theorem splitOn_eq (separator : String) (tokens : List Token) :
    (splitOn separator tokens : Attempt ε (List (List Token))) =
      .ok (splitAtOp separator tokens) := by
  have h : (splitOn separator tokens : Attempt ε (List (List Token))) = _ :=
    splitFrom_eq separator [] [] tokens []
  obtain ⟨first, others, hparts⟩ := exists_splitAtOp_eq_cons separator tokens
  simpa [hparts] using h

/-- Reads a single comparison, which has to take all the tokens. -/
def comparison (tokens : List Token) : Attempt Problem Condition :=
  if tokens.length = 0 then safe (failWith .expected ["condition", ""])
  else do
    let a ← register tokens
    if tokens.length < 2 then safe (failWith .expected ["comparison", joinTokens tokens])
    else
      let tok ← index tokens 1
      match if tok.kind == .op then Comparator.ofSymbol? tok.text else none with
      | none => safe (failWith .operatorUnknown [tok.print])
      | some cmp =>
          let b ← register (← sliceFrom tokens 2)
          safe (noMore (← sliceFrom tokens 3))
          return .compare a cmp b

theorem comparison_eq (tokens : List Token) :
    comparison tokens = safe (readComparison tokens) := by
  cases tokens with
  | nil => rfl
  | cons first rest =>
      rw [comparison, if_neg (by simp), readComparison, safe_bind]
      · rcases register_reads (first :: rest) with
          ⟨problem, hattempt, hread⟩ | ⟨a, _, rest, heq, hattempt, hread⟩
        · rw [hattempt, hread]
          rfl
        obtain ⟨rfl, rfl⟩ := List.cons.inj heq
        rw [hattempt, hread, ok_bind, safe_ok, ok_bind]
        cases rest with
        | nil => rfl
        | cons tok rest =>
            rw [if_neg (by simp)]
            simp only [index_succ, index_zero, sliceFrom_succ, sliceFrom_zero, ok_bind]
            cases hcmp : if tok.kind == .op then Comparator.ofSymbol? tok.text else none with
            | none => rfl
            | some cmp =>
                rcases register_reads rest with
                  ⟨problem, hattempt, hread⟩ | ⟨b, last, rest, rfl, hattempt, hread⟩
                · rw [hattempt, safe_bind, hread]
                  rfl
                · simp only [hattempt, hread, safe_bind, safe_ok, safe_pure, ok_bind, pure_eq,
                    sliceFrom_succ, sliceFrom_zero]
      · simp

/-- Reads comparisons joined by `&&`. -/
def conjunction (tokens : List Token) : Attempt Problem Condition := do
  safe (joinLeft .both (← (← splitOn "&&" tokens).mapM comparison))

theorem conjunction_eq (tokens : List Token) :
    conjunction tokens = safe (readConjunction tokens) := by
  rw [conjunction, splitOn_eq, ok_bind, safe_mapM _ fun part _ => comparison_eq part,
    readConjunction, safe_bind]

/-- Reads a condition, which has to take all the tokens. -/
def condition (tokens : List Token) : Attempt Problem Condition :=
  if tokens.length = 0 then safe (failWith .expected ["condition", ""])
  else do safe (joinLeft .either (← (← splitOn "||" tokens).mapM conjunction))

theorem condition_eq (tokens : List Token) :
    condition tokens = safe (readCondition tokens) := by
  cases tokens with
  | nil => rfl
  | cons first rest =>
      rw [condition, if_neg (by simp), splitOn_eq, ok_bind,
        safe_mapM _ fun part _ => conjunction_eq part, readCondition, safe_bind]
      simp

end Indexed

end Shorthand
