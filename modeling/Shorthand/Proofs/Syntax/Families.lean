import Shorthand.Proofs.Syntax.Pieces

/-!
# The order of the families does not matter

The families of statements are asked in an order, and the first one that a candidate starts a
statement of reads it.  No candidate starts statements of two families (`eq_of_starts`), so any
order has the same result (`dispatch_of_perm`): the same statements, and if a problem ends the line,
the same problem after the same statements.

## Strategy

`Candidate.family?` finds the family of a candidate by a look at its tokens, without asking one
family after the other.  A single token is a comment, a register, a mark of a store or a keyword;
more tokens can only be a store.  Whatever family a candidate starts a statement of, it is this one
(`family?_of_starts`), so there are no two.  Then the first family that a candidate starts is the
only one, and which one it is depends only on which families there are (`find?_starts_congr`).  The
dispatcher looks at the families in no other way (`progressOnto_congr`).
-/

namespace Shorthand

variable {handlers others : List Handler} {handler other : Handler} {c : Candidate}
  {tok : Token}

/-! ## The family of a candidate -/

/-- The keywords of the family. -/
def Handler.words : Handler → List String
  | compile => ["compile"]
  | main => ["main"]
  | branch => ["if"]
  | otherwise => ["else"]
  | loop => ["while"]
  | close => ["end"]
  | declaration => declarationWords
  | call => ["call"]
  | function => ["func"]
  | register | store | comment => []

/-- The marks that start a store: those of an address, and an equals sign without a target. -/
def storeMarks : List String := ["*", "&", "="]

/-- The family of the statements that start with the token. -/
def Token.family? (tok : Token) : Option Handler :=
  if tok.kind == .comment then some .comment
  else if tok.isRegister then some .register
  else if storeMarks.any tok.is then some .store
  else Handler.all.find? fun handler => handler.words.contains tok.text

/-- The family of the statements that the candidate starts. -/
def Candidate.family? (c : Candidate) : Option Handler :=
  if c.single then c.last.family? else some .store

theorem family?_of_isWord {word : String} (hword : word ∈ handler.words)
    (h : c.isWord word = true) : c.family? = some handler := by
  have hwords : ∀ handler ∈ Handler.all, ∀ word ∈ handler.words,
      Token.family? ⟨.ident, word, 0⟩ = some handler := by decide +kernel
  have hmem : handler ∈ Handler.all := by cases handler <;> decide
  obtain ⟨before, kind, text, col⟩ := c
  simp only [Candidate.isWord, Bool.and_eq_true, beq_iff_eq] at h
  obtain ⟨⟨hsingle, rfl⟩, rfl⟩ := h
  rw [Candidate.family?, if_pos hsingle]
  exact hwords handler hmem text hword

theorem family?_of_mark {mark : String} (hmark : mark ∈ storeMarks) (h : tok.is mark = true) :
    tok.family? = some .store := by
  have hmarks : ∀ kind ∈ [TokenKind.op, .ident], ∀ mark ∈ storeMarks,
      Token.family? ⟨kind, mark, 0⟩ = some .store := by decide +kernel
  obtain ⟨kind, text, col⟩ := tok
  simp only [Token.is, Bool.and_eq_true, Bool.or_eq_true, beq_iff_eq] at h
  obtain ⟨hkind, rfl⟩ := h
  exact hmarks kind (by simpa using hkind) text hmark

/-- A candidate starts statements of its own family only. -/
theorem family?_of_starts (h : handler.starts c = true) : c.family? = some handler := by
  cases handler with
  | compile | main | branch | otherwise | loop | close | call | function =>
      exact family?_of_isWord (List.mem_singleton_self _) h
  | declaration =>
      obtain ⟨word, hword, hstarts⟩ := List.any_eq_true.mp h
      exact family?_of_isWord hword hstarts
  | register =>
      obtain ⟨hsingle, hregister⟩ := Bool.and_eq_true_iff.mp h
      have hkind : c.last.kind = .ident := by simpa using (Bool.and_eq_true_iff.mp hregister).1
      simp [Candidate.family?, Token.family?, hsingle, hregister, hkind]
  | comment =>
      obtain ⟨hsingle, hkind⟩ := Bool.and_eq_true_iff.mp h
      simp [Candidate.family?, Token.family?, hsingle, hkind]
  | store =>
      cases hsingle : c.single with
      | false => simp [Candidate.family?, hsingle]
      | true =>
          obtain ⟨mark, hmark, his⟩ : ∃ mark ∈ storeMarks, c.last.is mark = true := by
            simp only [Handler.starts, hsingle, Bool.true_and, Bool.or_eq_true] at h
            rcases h with (hstar | hand) | hequals
            · exact ⟨"*", by decide, hstar⟩
            · exact ⟨"&", by decide, hand⟩
            · exact ⟨"=", by decide, (Bool.and_eq_true_iff.mp hequals).1⟩
          rw [Candidate.family?, if_pos hsingle, family?_of_mark hmark his]

/-- No candidate starts statements of two families. -/
theorem eq_of_starts (h : handler.starts c = true) (hother : other.starts c = true) :
    handler = other :=
  Option.some.inj ((family?_of_starts h).symm.trans (family?_of_starts hother))

/-- The first family that a candidate starts a statement of is the only one. -/
theorem find?_starts_eq_some_iff :
    handlers.find? (Handler.starts c) = some handler ↔
      handler ∈ handlers ∧ handler.starts c = true := by
  constructor
  · exact fun h => ⟨List.mem_of_find?_eq_some h, List.find?_some h⟩
  · rintro ⟨hmem, hstarts⟩
    cases hfind : handlers.find? (Handler.starts c) with
    | none => exact absurd hstarts (List.find?_eq_none.mp hfind handler hmem)
    | some found => rw [eq_of_starts (List.find?_some hfind) hstarts]

theorem find?_starts_congr (h : ∀ handler, handler ∈ handlers ↔ handler ∈ others)
    (c : Candidate) :
    handlers.find? (Handler.starts c) = others.find? (Handler.starts c) := by
  apply Option.ext
  intro handler
  rw [find?_starts_eq_some_iff, find?_starts_eq_some_iff, h]

/-! ## How far a line is dispatched -/

/-- What is known of a line when its dispatching ends: the statements that were read, and the
problem that ended it before the line did. -/
structure Progress where
  statements : List Statement
  problem? : Option Problem
deriving DecidableEq

/-- The statements, or the problem if there is one. -/
def Progress.result : Progress → Except Problem (List Statement)
  | ⟨statements, none⟩ => .ok statements
  | ⟨_, some problem⟩ => .error problem

theorem Progress.result_cons (statement : Statement) (later : Progress) :
    Progress.result { later with statements := statement :: later.statements } =
      later.result.map (statement :: ·) := by
  obtain ⟨statements, _ | problem⟩ := later <;> rfl

/-- Goes on with a line; `before` are the tokens that have started no statement yet, the nearest
first. -/
def progressOnto (handlers : List Handler) (before : List Token) : List Token → Progress
  | [] => ⟨[], none⟩
  | tok :: rest =>
      match handlers.find? (Handler.starts ⟨before, tok⟩) with
      | none => progressOnto handlers (tok :: before) rest
      | some handler =>
          match handler.read ⟨before, tok⟩ (handler.segment rest) with
          | .error problem => ⟨[], some problem⟩
          | .ok statement =>
              let later := progressOnto handlers [] (handler.segment rest).rest
              { later with statements := statement :: later.statements }
termination_by tokens => tokens.length
decreasing_by
  · simp
  · have := handler.length_rest_segment_le rest
    simp
    omega

/-- How far a line is dispatched. -/
def progress (handlers : List Handler) (tokens : List Token) : Progress :=
  progressOnto handlers [] tokens

theorem dispatchOnto_eq_result (handlers : List Handler) (before tokens : List Token) :
    dispatchOnto handlers [] before tokens = (progressOnto handlers before tokens).result := by
  fun_induction progressOnto handlers before tokens with
  | case1 before =>
      rw [dispatchOnto, List.reverse_nil]
      rfl
  | case2 before tok rest hnone ih =>
      rw [dispatchOnto, hnone]
      exact ih
  | case3 before tok rest handler hfind problem hread =>
      rw [dispatchOnto, hfind]
      dsimp only
      rw [hread]
      rfl
  | case4 before tok rest handler hfind statement hread later ih =>
      rw [dispatchOnto, hfind, Progress.result_cons, ← ih]
      dsimp only
      rw [hread]
      exact dispatchOnto_append_done handlers [statement] [] [] (handler.segment rest).rest

/-- The dispatcher returns the statements only if all of the line was dispatched. -/
theorem dispatch_eq_result (handlers : List Handler) (tokens : List Token) :
    dispatch handlers tokens = (progress handlers tokens).result :=
  dispatchOnto_eq_result handlers [] tokens

/-- The dispatcher asks the families only for the first one that a candidate starts. -/
theorem progressOnto_congr
    (h : ∀ c, handlers.find? (Handler.starts c) = others.find? (Handler.starts c))
    (before tokens : List Token) :
    progressOnto handlers before tokens = progressOnto others before tokens := by
  fun_induction progressOnto handlers before tokens with
  | case1 before => rw [progressOnto]
  | case2 before tok rest hnone ih =>
      rw [progressOnto, ← h, hnone]
      exact ih
  | case3 before tok rest handler hfind problem hread =>
      rw [progressOnto, ← h, hfind]
      dsimp only
      rw [hread]
  | case4 before tok rest handler hfind statement hread later ih =>
      rw [progressOnto, ← h, hfind]
      dsimp only
      rw [hread, ← ih]

/-- **The order in which the families are asked does not matter.**  In any order a line comes to the
same statements or to the same problem, and before a problem to the same statements. -/
theorem dispatch_of_perm (h : handlers.Perm Handler.all) (tokens : List Token) :
    dispatch handlers tokens = dispatch Handler.all tokens ∧
      progress handlers tokens = progress Handler.all tokens := by
  have hprogress : progress handlers tokens = progress Handler.all tokens :=
    progressOnto_congr (find?_starts_congr fun _ => h.mem_iff) [] tokens
  refine ⟨?_, hprogress⟩
  rw [dispatch_eq_result, dispatch_eq_result, hprogress]

/-- Asked in the opposite order, the families read a copy and a store of this line as well, and find
the same tokens left over after its last statement. -/
theorem dispatch_reverse_all :
    Handler.all.reverse.Perm Handler.all ∧
      progress Handler.all.reverse (lex "r1 = r2; x = r1; end now").tokens =
        ⟨[.move "r1" "r2", .store .word "r1" (.variable "x")],
          some (.withTexts .trailing ["now"])⟩ ∧
      dispatch Handler.all.reverse (lex "r1 = r2; x = r1; end now").tokens =
        .error (.withTexts .trailing ["now"]) := by
  have hperm : Handler.all.reverse.Perm Handler.all := List.reverse_perm _
  obtain ⟨hdispatch, hprogress⟩ :=
    dispatch_of_perm hperm (lex "r1 = r2; x = r1; end now").tokens
  refine ⟨hperm, hprogress.trans ?_, hdispatch.trans ?_⟩
  · decide +kernel
  · decide +kernel

end Shorthand
