import Shorthand.Proofs.Indexed.Statements

/-!
# Dispatching a line by position

The candidate is the slice from where a statement starts up to the tokens that are looked at, and
the family that it belongs to says how many tokens after the candidate it takes.  The dispatcher
moves both ends of the candidate by these counts.

Since the counts are those of the tokens that a family takes off the front (`parse_parses`), both
ends stay inside of the line, whichever families are asked and in whatever order, and the statements
are those of `dispatch` (`dispatch_eq`).
-/

namespace Shorthand.Indexed

open Attempt

variable {ε : Type}

/-! ## Families -/

/-- Whether a candidate is a single token of the right form. -/
def alone (candidate : List Token) (isRight : Token → Bool) : Attempt ε Bool :=
  andAlso (candidate.length == 1) do return isRight (← index candidate 0)

theorem alone_eq (c : Candidate) (isRight : Token → Bool) :
    (alone c.tokens isRight : Attempt ε Bool) = .ok (c.single && isRight c.last) := by
  obtain ⟨before, last⟩ := c
  cases before with
  | nil => rfl
  | cons tok before =>
      have hlength : ((before.reverse ++ [tok] ++ [last]).length == 1) = false := by simp
      simp only [alone, Candidate.tokens, Candidate.single, List.reverse_cons, hlength,
        andAlso_false, List.isEmpty_cons, Bool.false_and]

/-- Whether a candidate is the one word given. -/
def isWord (candidate : List Token) (word : String) : Attempt ε Bool :=
  alone candidate fun tok => tok.kind == .ident && tok.text == word

theorem isWord_eq (c : Candidate) (word : String) :
    (isWord c.tokens word : Attempt ε Bool) = .ok (c.isWord word) := by
  rw [isWord, alone_eq, Candidate.isWord, Bool.and_assoc]

/-- Whether a candidate is one of the words given. -/
def isOneOf (candidate : List Token) : List String → Attempt ε Bool
  | [] => .ok false
  | word :: words => do
      if ← isWord candidate word then return true else isOneOf candidate words

theorem isOneOf_eq (c : Candidate) (words : List String) :
    (isOneOf c.tokens words : Attempt ε Bool) = .ok (words.any c.isWord) := by
  induction words with
  | nil => rfl
  | cons word words ih =>
      rw [isOneOf, isWord_eq, ok_bind, ih, List.any_cons]
      cases c.isWord word <;> rfl

/-- Whether a candidate starts a store. -/
def startsStore (candidate : List Token) : Attempt ε Bool := do
  if ← alone candidate fun tok => tok.is "*" || tok.is "&" then return true
  else
    let last ← index candidate (candidate.length - 1)
    if last.is "=" then
      let isAssignment ← andAlso (candidate.length == 2) do return (← index candidate 0).isRegister
      return !isAssignment
    else return false

theorem startsStore_eq (c : Candidate) :
    (startsStore c.tokens : Attempt ε Bool) = .ok (Handler.starts c .store) := by
  have hlast : (index c.tokens (c.tokens.length - 1) : Attempt ε Token) = .ok c.last := by
    simp [index, Candidate.tokens]
  have hassignment : (andAlso (c.tokens.length == 2) do
      return (← index c.tokens 0).isRegister : Attempt ε Bool) =
      .ok (c.before.length == 1 && c.before.all Token.isRegister) := by
    obtain ⟨_ | ⟨first, _ | ⟨second, before⟩⟩, last⟩ := c
    · rfl
    · simp [Candidate.tokens]
    · simp [Candidate.tokens]
  rw [startsStore, alone_eq, ok_bind, hlast, hassignment, Handler.starts]
  cases c.single && (c.last.is "*" || c.last.is "&") with
  | true => rfl
  | false => cases hequals : c.last.is "=" <;> simp [hequals]

/-- Whether a candidate starts a statement of a family. -/
def starts (candidate : List Token) : Handler → Attempt ε Bool
  | .compile => isWord candidate "compile"
  | .main => isWord candidate "main"
  | .branch => isWord candidate "if"
  | .otherwise => isWord candidate "else"
  | .loop => isWord candidate "while"
  | .close => isWord candidate "end"
  | .register => alone candidate Token.isRegister
  | .declaration => isOneOf candidate declarationWords
  | .call => isWord candidate "call"
  | .function => isWord candidate "func"
  | .store => startsStore candidate
  | .comment => alone candidate fun tok => tok.kind == .comment

theorem starts_eq (c : Candidate) (handler : Handler) :
    (starts c.tokens handler : Attempt ε Bool) = .ok (handler.starts c) := by
  cases handler with
  | compile | main | branch | otherwise | loop | close | call | function =>
      exact isWord_eq c _
  | register => exact alone_eq c _
  | declaration => exact isOneOf_eq c _
  | store => exact startsStore_eq c
  | comment => exact alone_eq c _

/-- The first family that a candidate starts a statement of. -/
def firstMatch (candidate : List Token) : List Handler → Attempt ε (Option Handler)
  | [] => .ok none
  | handler :: handlers => do
      if ← starts candidate handler then return some handler else firstMatch candidate handlers

theorem firstMatch_eq (c : Candidate) (handlers : List Handler) :
    (firstMatch c.tokens handlers : Attempt ε (Option Handler)) =
      .ok (handlers.find? (Handler.starts c)) := by
  induction handlers with
  | nil => rfl
  | cons handler handlers ih =>
      rw [firstMatch, starts_eq, ok_bind, ih, List.find?_cons]
      cases handler.starts c <;> rfl

/-- Reads a statement that ends at one of the terminators, and counts its tokens. -/
def parseUpTo (terminators : List String)
    (read : List Token → Option String → Attempt Problem Statement) (tokens : List Token) :
    Attempt Problem (Statement × Nat) := do
  let (body, used, terminator?) ← segment terminators tokens
  return (← read body terminator?, used)

/-- Reads a statement of a family, and counts the tokens after the candidate that belong to it. -/
def parse (candidate tokens : List Token) : Handler → Attempt Problem (Statement × Nat)
  | .compile => block .compile
  | .main => block .main
  | .branch => parseUpTo [";", ":"] (fun body _ => do return .branch (← condition body)) tokens
  | .otherwise => parseUpTo [";", ":"] (fun body _ => bare .otherwise body) tokens
  | .loop => parseUpTo [";", ":"] (fun body _ => loop body) tokens
  | .close => parseUpTo [";", ":"] (fun body _ => bare .close body) tokens
  | .register => do
      let tok ← index candidate 0
      parseUpTo [";"] (fun body _ => registerStatement tok.text body) tokens
  | .declaration => do
      let tok ← index candidate 0
      parseUpTo [";"] (fun body _ => do return .declare (← declaration tok.text body)) tokens
  | .call => parseUpTo [";"] (fun body _ => named "call" .call body) tokens
  | .function =>
      parseUpTo [";", ":"] (fun body terminator? =>
        named "func" (fun name => .block (.function name) (terminator? == some ":")) body) tokens
  | .store =>
      parseUpTo [";"] (fun body _ =>
        if candidate.length = 1 then memoryStore candidate body
        else variableStore candidate body) tokens
  | .comment => do
      let tok ← index candidate 0
      return (.comment tok.text, 0)
where
  /-- Reads a block without a name. -/
  block (head : BlockHead) : Attempt Problem (Statement × Nat) :=
    parseUpTo [";", ":"] (fun body terminator? =>
      bare (.block head (terminator? == some ":")) body) tokens

/-- A statement by position is the one off the front, and what is counted are the tokens before
the rest of the line. -/
def Parses (tokens : List Token) (attempt : Attempt Problem (Statement × Nat))
    (read : Except Problem Statement) (rest : List Token) : Prop :=
  ∃ taken, tokens = taken ++ rest ∧
    attempt = safe (read.map fun statement => (statement, taken.length))

theorem parseUpTo_parses {terminators : List String}
    {read : List Token → Option String → Attempt Problem Statement} {tokens : List Token}
    {result : Except Problem Statement}
    (h : read (Segment.upTo terminators tokens).body (Segment.upTo terminators tokens).terminator? =
      safe result) :
    Parses tokens (parseUpTo terminators read tokens) result
      (Segment.upTo terminators tokens).rest := by
  obtain ⟨taken, htaken, hsegment⟩ := segment_eq terminators tokens
  refine ⟨taken, htaken, ?_⟩
  rw [parseUpTo, hsegment, ok_bind]
  dsimp only
  rw [h]
  cases result <;> rfl

-- A family that starts with a single token looks at the first token of the candidate.
theorem index_zero_of_single {c : Candidate} (h : c.single = true) :
    (index c.tokens 0 : Attempt ε Token) = .ok c.last := by
  obtain ⟨before, last⟩ := c
  obtain rfl : before = [] := List.isEmpty_iff.mp h
  rfl

theorem single_of_starts {c : Candidate} {handler : Handler} (h : handler.starts c = true)
    (hstore : handler ≠ .store) : c.single = true := by
  cases handler with
  | store => contradiction
  | register | comment => exact (Bool.and_eq_true_iff.mp h).1
  | declaration =>
      obtain ⟨word, _, hword⟩ := List.any_eq_true.mp h
      simp only [Candidate.isWord, Bool.and_eq_true] at hword
      exact hword.1.1
  | _ =>
      simp only [Handler.starts, Candidate.isWord, Bool.and_eq_true] at h
      exact h.1.1

theorem parse_parses {c : Candidate} {handler : Handler} (h : handler.starts c = true)
    (tokens : List Token) :
    Parses tokens (parse c.tokens tokens handler) (handler.read c (handler.segment tokens))
      (handler.segment tokens).rest := by
  unfold parse Handler.read Handler.segment
  cases handler with
  | compile | main =>
      dsimp only [parse.block]
      exact parseUpTo_parses (bare_eq _ _)
  | otherwise | close =>
      dsimp only
      exact parseUpTo_parses (bare_eq _ _)
  | branch =>
      dsimp only
      refine parseUpTo_parses ?_
      rw [condition_eq, safe_bind]
      rfl
  | loop =>
      dsimp only
      exact parseUpTo_parses (loop_eq _)
  | register =>
      dsimp only
      rw [index_zero_of_single (single_of_starts h nofun), ok_bind]
      exact parseUpTo_parses (registerStatement_eq _ _)
  | declaration =>
      dsimp only
      rw [index_zero_of_single (single_of_starts h nofun), ok_bind]
      refine parseUpTo_parses ?_
      rw [declaration_eq, safe_bind]
      rfl
  | call =>
      dsimp only
      exact parseUpTo_parses (named_eq rfl (fun _ _ => rfl) _)
  | function =>
      dsimp only
      refine parseUpTo_parses ?_
      obtain ⟨body, rest, terminator?⟩ := Segment.upTo [";", ":"] tokens
      exact @named_eq _ _ (fun body => readFunction ⟨body, rest, terminator?⟩) rfl
        (fun _ _ => rfl) body
  | store =>
      dsimp only
      refine parseUpTo_parses ?_
      obtain ⟨before, last⟩ := c
      cases before with
      | nil => exact memoryStore_eq last _
      | cons tok before =>
          rw [if_neg (by simp [Candidate.tokens]), if_neg (by simp [Candidate.single])]
          exact variableStore_eq _ _ last
  | comment =>
      dsimp only
      rw [index_zero_of_single (single_of_starts h nofun), ok_bind]
      exact ⟨[], rfl, rfl⟩

/-! ## Lines -/

/-- Goes on with a line: the statements before are `done`, and the candidate is from `start` up to
`stop`. -/
def dispatchFrom (handlers : List Handler) (tokens : List Token) (done : List Statement)
    (start stop : Nat) : Attempt Problem (List Statement) :=
  if stop ≤ tokens.length then do
    let candidate ← slice tokens start stop
    let rest ← sliceFrom tokens stop
    match ← firstMatch candidate handlers with
    | none => dispatchFrom handlers tokens done start (stop + 1)
    | some handler =>
        let (statement, used) ← parse candidate rest handler
        dispatchFrom handlers tokens (done ++ [statement]) (stop + used) (stop + used + 1)
  else return done
termination_by tokens.length + 1 - stop

/-- The statements of a line, by the families given. -/
def dispatch (handlers : List Handler) (tokens : List Token) :
    Attempt Problem (List Statement) :=
  dispatchFrom handlers tokens [] 0 1

-- The line is what was dispatched before, the tokens of the candidate, and what is left.
theorem dispatchFrom_candidate (handlers : List Handler) (done : List Statement)
    (past before rest : List Token) (tok : Token) :
    dispatchFrom handlers (past ++ before.reverse ++ tok :: rest) done past.length
        (past.length + before.length + 1) =
      (match handlers.find? (Handler.starts ⟨before, tok⟩) with
      | none =>
          dispatchFrom handlers (past ++ before.reverse ++ tok :: rest) done past.length
            (past.length + before.length + 1 + 1)
      | some handler => do
          let (statement, used) ← parse (Candidate.tokens ⟨before, tok⟩) rest handler
          dispatchFrom handlers (past ++ before.reverse ++ tok :: rest) (done ++ [statement])
            (past.length + before.length + 1 + used)
            (past.length + before.length + 1 + used + 1)) := by
  have hstop : past.length + before.length + 1 = (past ++ (before.reverse ++ [tok])).length := by
    simp [Nat.add_assoc]
  have htokens : past ++ before.reverse ++ tok :: rest =
      past ++ (before.reverse ++ [tok]) ++ rest := by simp
  have hle : past.length + before.length + 1 ≤
      (past ++ before.reverse ++ tok :: rest).length := by
    simp only [List.length_append, List.length_reverse, List.length_cons]
    omega
  rw [dispatchFrom, if_pos hle]
  have hslice : (slice (past ++ before.reverse ++ tok :: rest) past.length
      (past.length + before.length + 1) : Attempt Problem (List Token)) =
      .ok (Candidate.tokens ⟨before, tok⟩) := by
    rw [slice, if_pos ⟨by omega, hle⟩, hstop, htokens, List.take_left, List.drop_left]
    rfl
  have hrest : (sliceFrom (past ++ before.reverse ++ tok :: rest)
      (past.length + before.length + 1) : Attempt Problem (List Token)) = .ok rest := by
    rw [hstop, htokens, sliceFrom_length]
  rw [hslice, hrest, ok_bind, ok_bind, firstMatch_eq, ok_bind]

theorem dispatchFrom_eq (handlers : List Handler) (done : List Statement)
    (before rest past : List Token) :
    dispatchFrom handlers (past ++ before.reverse ++ rest) done.reverse past.length
        (past.length + before.length + 1) =
      safe (dispatchOnto handlers done before rest) := by
  fun_induction dispatchOnto handlers done before rest generalizing past with
  | case1 done before =>
      rw [dispatchFrom, if_neg (by simp)]
      rfl
  | case2 done before tok rest hfind ih =>
      have hnext := ih past
      rw [List.reverse_cons, List.length_cons, ← List.append_assoc, List.append_assoc _ [tok],
        List.singleton_append] at hnext
      rw [dispatchFrom_candidate, hfind]
      exact hnext
  | case3 done before tok rest handler hfind problem hread =>
      obtain ⟨taken, htaken, hparse⟩ := parse_parses (List.find?_some hfind) rest
      rw [dispatchFrom_candidate, hfind]
      dsimp only
      rw [hparse, hread]
      rfl
  | case4 done before tok rest handler hfind statement hread ih =>
      obtain ⟨taken, htaken, hparse⟩ := parse_parses (List.find?_some hfind) rest
      rw [dispatchFrom_candidate, hfind]
      dsimp only
      rw [hparse, hread]
      have hnext := ih (past ++ before.reverse ++ tok :: taken)
      have hstart : (past ++ before.reverse ++ tok :: taken).length =
          past.length + before.length + 1 + taken.length := by
        simp
        omega
      rw [hstart, List.reverse_nil, List.append_nil, List.append_assoc _ (tok :: taken),
        List.cons_append, ← htaken, List.reverse_cons] at hnext
      exact hnext

theorem dispatch_eq (handlers : List Handler) (tokens : List Token) :
    dispatch handlers tokens = safe (Shorthand.dispatch handlers tokens) :=
  dispatchFrom_eq handlers [] [] tokens []

end Shorthand.Indexed
