import Mathlib.Tactic.Common
import Shorthand.Compiler
import Shorthand.Proofs.Flow.Program

/-!
# Statements that come from a source

Every statement of a source was read by one of the handlers (`exists_read_of_mem_parse`), and it is
one of the handler's family (`read_family`).  Whichever handlers there are and in whichever order
they are asked, a function has a name that is no keyword (`isNameText_of_mem_parse`).  In particular
no function is called `main`, so that its labels cannot be taken for those of the program proper.
-/

namespace Shorthand

open Machine

/-! ## Results of readers -/

section ensures

variable {ε α β : Type} {P : β → Prop} {Q : α → Prop}

/-- What is read, if anything is, has the property. -/
structure Ensures (x : Except ε α) (Q : α → Prop) : Prop where
  of_ok : ∀ {a : α}, x = .ok a → Q a

theorem Ensures.ok {a : α} (h : Q a) : Ensures (.ok a : Except ε α) Q := by
  refine ⟨fun hread => ?_⟩
  cases hread
  exact h

theorem Ensures.error {e : ε} : Ensures (.error e : Except ε α) Q := ⟨nofun⟩

theorem Ensures.mono {x : Except ε α} {R : α → Prop} (hx : Ensures x Q) (h : ∀ a, Q a → R a) :
    Ensures x R :=
  ⟨fun hread => h _ (hx.of_ok hread)⟩

/-- What is read after something with a property may rely on it. -/
theorem Ensures.bind_of {x : Except ε α} {f : α → Except ε β} (hx : Ensures x Q)
    (hf : ∀ a, Q a → Ensures (f a) P) : Ensures (x >>= f) P := by
  refine ⟨fun {b} hread => ?_⟩
  cases x with
  | error e => cases hread
  | ok a => exact (hf a (hx.of_ok rfl)).of_ok hread

theorem Ensures.bind {x : Except ε α} {f : α → Except ε β} (hf : ∀ a, Ensures (f a) P) :
    Ensures (x >>= f) P :=
  Ensures.bind_of (Q := fun _ => True) ⟨fun _ => trivial⟩ fun a _ => hf a

end ensures

/-! ## What the handlers read -/

/-- The family that the statement belongs to. -/
def Statement.family : Statement → Handler
  | block .compile _ => .compile
  | block .main _ => .main
  | block (.function _) _ => .function
  | branch _ => .branch
  | otherwise => .otherwise
  | loop _ => .loop
  | close => .close
  | call _ => .call
  | comment _ => .comment
  | move _ _ | address _ _ | load _ _ _ _ | loadName _ _ _ | loadImmediate _ _
  | operate _ _ _ _ => .register
  | store _ _ _ => .store
  | declare _ => .declaration

private theorem readOperation_family (dst src : Register) (tokens : List Token) :
    Ensures (readOperation dst src tokens) fun reading => reading.1.family = .register := by
  unfold readOperation
  repeat' split
  · exact .ok rfl
  · exact .bind fun reading => .ok rfl
  · exact .error
  · exact .error

private theorem readAddressed_family (dst : Register) (cast? : Option Cast)
    (value tokens : List Token) :
    Ensures (readAddressed dst cast? value tokens) fun reading =>
      reading.1.family = .register := by
  unfold readAddressed
  repeat' split
  · exact .error
  · exact .bind fun reading => .ok rfl
  · exact .error
  · exact .ok rfl
  · exact .error

private theorem readAssigned_family (dst : Register) (value : List Token) :
    Ensures (readAssigned dst value) fun reading => reading.1.family = .register := by
  unfold readAssigned
  split
  · exact .error
  split
  · exact readOperation_family ..
  refine .bind fun reading => ?_
  obtain ⟨cast?, rest⟩ := reading
  cases rest with
  | nil => exact .error
  | cons tok more =>
      dsimp only
      split
      · exact readAddressed_family ..
      cases cast? with
      | some cast =>
          dsimp only
          split
          · exact .ok rfl
          · exact .error
      | none =>
          refine .bind fun reading => ?_
          obtain ⟨imm, rest⟩ := reading
          cases imm <;> exact .ok rfl

private theorem readUpdate_family (dst : Register) (first : Token) (rest : List Token) :
    Ensures (readUpdate dst first rest) fun reading => reading.1.family = .register := by
  unfold readUpdate
  repeat' split
  · exact readAssigned_family ..
  · exact .ok rfl
  · exact .ok rfl
  · exact .bind fun reading => .ok rfl
  · exact .error
  · exact .error

private theorem readRegisterStatement_family (dst : Register) (tokens : List Token) :
    Ensures (readRegisterStatement dst tokens) fun statement => statement.family = .register := by
  unfold readRegisterStatement
  split
  · exact .error
  · refine .bind_of (readUpdate_family ..) fun reading hfamily => ?_
    exact .bind fun _ => .ok hfamily

private theorem readStored_family (target : Target) (tokens : List Token) :
    Ensures (readStored target tokens) fun statement => statement.family = .store := by
  unfold readStored
  exact .bind fun _ => .bind fun _ => .bind fun _ => .ok rfl

private theorem readMemoryStore_family (mark : Token) (body : List Token) :
    Ensures (readMemoryStore mark body) fun statement => statement.family = .store := by
  unfold readMemoryStore
  refine .bind fun _ => .bind fun _ => ?_
  repeat' split
  · exact readStored_family ..
  · exact .error
  · exact .error

private theorem readVariableStore_family (target body : List Token) :
    Ensures (readVariableStore target body) fun statement => statement.family = .store := by
  unfold readVariableStore
  repeat' split
  · exact readStored_family ..
  · exact .error
  · exact .error

private theorem readFunction_family (segment : Segment) :
    Ensures (readFunction segment) fun statement => statement.family = .function := by
  unfold readFunction
  repeat' split
  · exact .error
  · exact .bind fun _ => .ok rfl
  · exact .error

private theorem readLoop_family (body : List Token) :
    Ensures (readLoop body) fun statement => statement.family = .loop := by
  unfold readLoop
  dsimp only
  repeat' split
  · exact .bind fun _ => .ok rfl
  · exact .bind fun _ => .ok rfl
  · exact .bind fun _ => .ok rfl

private theorem readCall_family (body : List Token) :
    Ensures (readCall body) fun statement => statement.family = .call := by
  unfold readCall
  repeat' split
  · exact .error
  · exact .bind fun _ => .ok rfl
  · exact .error

/-- A handler reads the statements of its family. -/
theorem read_family (c : Candidate) (segment : Segment) (handler : Handler) :
    Ensures (handler.read c segment) fun statement => statement.family = handler := by
  cases handler with
  | compile | main | branch | otherwise | close | declaration => exact .bind fun _ => .ok rfl
  | loop => exact readLoop_family _
  | register => exact readRegisterStatement_family ..
  | call => exact readCall_family _
  | function => exact readFunction_family segment
  | store =>
      simp only [Handler.read]
      split
      · exact readMemoryStore_family ..
      · exact readVariableStore_family ..
  | comment => exact .ok rfl

/-- A function has a name. -/
def Statement.NamesFunction : Statement → Prop
  | block (.function name) _ => isNameText name = true
  | _ => True

theorem Statement.namesFunction_of_family {statement : Statement}
    (h : statement.family ≠ .function) : statement.NamesFunction := by
  unfold NamesFunction
  split
  · exact absurd rfl h
  · trivial

/-- Whether the statement is a comment. -/
def Statement.isComment : Statement → Bool
  | comment _ => true
  | _ => false

/-- Only the handler of comments reads comments. -/
theorem Statement.isComment_of_family {statement : Statement} (h : statement.family ≠ .comment) :
    statement.isComment = false := by
  unfold isComment
  split
  · exact absurd rfl h
  · rfl

private theorem readFunction_namesFunction (segment : Segment) :
    Ensures (readFunction segment) Statement.NamesFunction := by
  unfold readFunction
  split
  · exact .error
  split
  · rename_i hname
    refine .bind fun _ => .ok ?_
    simp only [Token.isName, Bool.and_eq_true] at hname
    exact hname.2
  · exact .error

private theorem read_namesFunction (c : Candidate) (segment : Segment) (handler : Handler) :
    Ensures (handler.read c segment) Statement.NamesFunction := by
  by_cases hfunction : handler = .function
  · subst hfunction
    exact readFunction_namesFunction segment
  · refine (read_family c segment handler).mono fun statement hfamily => ?_
    exact Statement.namesFunction_of_family (hfamily.trans_ne hfunction)

/-! ## Lines and sources -/

/-- What follows on a statement are the last ones of the tokens. -/
theorem rest_segment_suffix (handler : Handler) (tokens : List Token) :
    (handler.segment tokens).rest <:+ tokens := by
  have hupTo : ∀ terminators : List String,
      (Segment.upTo terminators tokens).rest <:+ tokens := by
    intro terminators
    have hsuffix := List.dropWhile_suffix (l := tokens)
      fun tok => !endsStatement terminators tok
    unfold Segment.upTo
    dsimp only
    split
    · exact List.nil_suffix
    · rename_i tok rest hrest
      rw [hrest] at hsuffix
      split
      · exact hsuffix
      · exact (List.suffix_cons tok rest).trans hsuffix
  cases handler with
  | comment => exact List.suffix_refl _
  | _ => exact hupTo _

/-- A statement is read from its own tokens, whatever follows on it. -/
theorem read_of_rest (handler : Handler) (c : Candidate) (segment : Segment) (rest : List Token) :
    handler.read c ⟨segment.body, rest, segment.terminator?⟩ = handler.read c segment := by
  cases handler <;> rfl

/-- The tokens that a statement is read from are among those of the line. -/
theorem body_segment_subset (handler : Handler) (tokens : List Token) :
    (handler.segment tokens).body ⊆ tokens := by
  have hupTo : ∀ terminators : List String,
      (Segment.upTo terminators tokens).body ⊆ tokens := by
    intro terminators
    have hprefix := List.takeWhile_prefix (l := tokens)
      fun tok => !endsStatement terminators tok
    unfold Segment.upTo
    dsimp only
    repeat' split
    all_goals exact hprefix.subset
  cases handler with
  | comment => exact List.nil_subset _
  | _ => exact hupTo _

theorem mem_dispatchOnto {handlers : List Handler} {done statements : List Statement}
    {before tokens : List Token} {statement : Statement}
    (h : dispatchOnto handlers done before tokens = .ok statements)
    (hmem : statement ∈ statements) :
    statement ∈ done ∨ ∃ handler c segment, segment.body ⊆ tokens ∧
      Handler.read c segment handler = .ok statement := by
  fun_induction dispatchOnto handlers done before tokens with
  | case1 done before =>
      cases h
      exact .inl (List.mem_reverse.mp hmem)
  | case2 done before tok rest hnone ih =>
      refine (ih h).imp_right ?_
      rintro ⟨handler, c, segment, hbody, hread⟩
      exact ⟨handler, c, segment, List.subset_cons_of_subset _ hbody, hread⟩
  | case3 => cases h
  | case4 done before tok rest handler hfind result hread ih =>
      rcases ih h with hdone | ⟨later, c, segment, hbody, hlater⟩
      · rcases List.mem_cons.mp hdone with rfl | hdone
        · exact .inr ⟨handler, _, _,
            List.subset_cons_of_subset _ (body_segment_subset handler rest), hread⟩
        · exact .inl hdone
      · have hrest := List.Subset.trans hbody (rest_segment_suffix handler rest).subset
        exact .inr ⟨later, c, segment, List.subset_cons_of_subset _ hrest, hlater⟩

theorem mem_parseLine {handlers : List Handler} {line : String} {statements : List Statement}
    {statement : Statement} (h : parseLine handlers line = .ok statements)
    (hmem : statement ∈ statements) :
    ∃ handler c segment, segment.body ⊆ (lex line).tokens ∧
      Handler.read c segment handler = .ok statement := by
  unfold parseLine at h
  split at h
  · cases h
  · exact (mem_dispatchOnto h hmem).resolve_left List.not_mem_nil

theorem mem_parseOnto {handlers : List Handler} {ending? : Option Problem} {done : List Located}
    {seen : Nat} {last : Place} {lines : List String} {located : Located}
    (hmem : located ∈ (parseOnto handlers ending? done seen last lines).statements) :
    located ∈ done ∨ ∃ handler c segment line, segment.body ⊆ (lex line).tokens ∧
      Handler.read c segment handler = .ok located.statement := by
  induction lines generalizing done seen last with
  | nil => exact .inl (List.mem_reverse.mp hmem)
  | cons raw rest ih =>
      unfold parseOnto at hmem
      dsimp only at hmem
      split at hmem
      · exact .inl (List.mem_reverse.mp hmem)
      · rename_i statements hline
        rcases ih hmem with hdone | hlater
        · rcases List.mem_append.mp hdone with hnew | hdone
          · obtain ⟨statement, hstatement, rfl⟩ := List.mem_map.mp (List.mem_reverse.mp hnew)
            obtain ⟨handler, c, segment, hbody, hread⟩ := mem_parseLine hline hstatement
            exact .inr ⟨handler, c, segment, _, hbody, hread⟩
          · exact .inl hdone
        · exact .inr hlater

/-- Every statement of a source was read by a handler from tokens of a line. -/
theorem exists_read_of_mem_parse {handlers : List Handler} {source : Source} {located : Located}
    (hmem : located ∈ (parse handlers source).statements) :
    ∃ handler c segment line, segment.body ⊆ (lex line).tokens ∧
      Handler.read c segment handler = .ok located.statement :=
  (mem_parseOnto hmem).resolve_left List.not_mem_nil

/-- The functions of a source have names that are no keywords. -/
theorem isNameText_of_mem_parse {handlers : List Handler} {source : Source} {name : String}
    {colon : Bool}
    (hmem : Statement.block (.function name) colon ∈
      (parse handlers source).statements.map Located.statement) :
    isNameText name = true := by
  obtain ⟨located, hlocated, hstatement⟩ := List.mem_map.mp hmem
  obtain ⟨handler, c, segment, -, -, hread⟩ := exists_read_of_mem_parse hlocated
  have hnames := (read_namesFunction c segment handler).of_ok hread
  rw [hstatement] at hnames
  exact hnames

/-! ## What a compilation comes to -/

section compile

variable [Interpreter] {compiler : Compiler} {source : Source}

theorem Compiler.outcome_of_failure {failure : Failure}
    (h : (parse compiler.handlers source).failure? = some failure) :
    (compiler.compile source).outcome = .error (.failure failure) := by
  rw [compile, h]

theorem Compiler.outcome_of_parsed (h : (parse compiler.handlers source).failure? = none) :
    (compiler.compile source).outcome =
      ((Lowering.lower compiler.predefined (parse compiler.handlers source).statements).map
        Prod.fst).mapError rejection := by
  rw [compile, h]
  cases Lowering.lower compiler.predefined (parse compiler.handlers source).statements <;> rfl

/-- A compilation that succeeds lowers the statements of the source. -/
theorem lower_of_compile {listing : Listing}
    (h : (compiler.compile source).outcome = .ok listing) :
    ∃ events, Lowering.lower compiler.predefined (parse compiler.handlers source).statements =
      .ok (listing, events) := by
  cases hparsed : (parse compiler.handlers source).failure? with
  | some failure =>
      rw [Compiler.outcome_of_failure hparsed] at h
      cases h
  | none =>
      rw [Compiler.outcome_of_parsed hparsed] at h
      cases hlower : Lowering.lower compiler.predefined
          (parse compiler.handlers source).statements with
      | error interrupted =>
          rw [hlower] at h
          cases h
      | ok result =>
          rw [hlower] at h
          cases h
          exact ⟨_, rfl⟩

end compile

end Shorthand
