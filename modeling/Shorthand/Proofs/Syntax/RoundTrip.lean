import Shorthand.Proofs.Syntax.Reading

/-!
# Parsing undoes printing

A well-formed statement that is printed, lexed and dispatched to the families of statements
comes back as the only statement of the line (`dispatch_lex_print`), with one exception: an
immediate value that is a name.  `rX = NAME` is read as the loading of a name, which may turn
out to be a variable, and never as that of an immediate value; so the two statements have one
source form, and only one of them can be read back.

## Strategy

The line of a printed statement is known token by token (`Statement.lex_print`).  Dispatching
grows a candidate from the front until a family takes it.  The first token decides, except for a
store to a variable, which is known only by its equals sign (`dispatch_first`,
`dispatch_second`).  The family's segment is then all that follows (`Segment.upTo_placeFrom`,
`Segment.upTo_colon`), so nothing of the line is left for a second statement, and what the
family reads off its segment is the statement, by the readers of its parts.
-/

namespace Shorthand

open Machine Text

/-! ## Segments -/

/-- Tokens that end no statement come before the body of what follows them. -/
theorem Segment.upTo_append {terminators : List String} {tokens : List Token}
    (h : ∀ tok ∈ tokens, endsStatement terminators tok = false) (rest : List Token) :
    Segment.upTo terminators (tokens ++ rest) =
      ⟨tokens ++ (Segment.upTo terminators rest).body, (Segment.upTo terminators rest).rest,
        (Segment.upTo terminators rest).terminator?⟩ := by
  have hinside : ∀ tok ∈ tokens, (!endsStatement terminators tok) = true := by simpa using h
  simp only [Segment.upTo, List.takeWhile_append_of_pos hinside,
    List.dropWhile_append_of_pos hinside]
  split
  · rfl
  · split <;> rfl

private theorem inside_of_mem_placeFrom {terminators : List String} {tokens : List Token}
    (h : ∀ tok ∈ tokens, endsStatement terminators tok = false) (pos : Nat) :
    ∀ tok ∈ placeFrom pos tokens, endsStatement terminators tok = false := by
  intro tok htok
  obtain ⟨other, hother, heq⟩ := exists_of_mem_placeFrom htok
  rw [heq]
  exact h other hother

/-- Without a token that ends the statement, the segment is all of the line. -/
theorem Segment.upTo_placeFrom {terminators : List String} {tokens : List Token}
    (h : ∀ tok ∈ tokens, endsStatement terminators tok = false) (pos : Nat) :
    Segment.upTo terminators (placeFrom pos tokens) = ⟨placeFrom pos tokens, [], none⟩ := by
  have happend := Segment.upTo_append (inside_of_mem_placeFrom h pos) []
  simpa [Segment.upTo] using happend

/-- A colon may end the head of a construct, and it belongs to the head. -/
theorem Segment.upTo_colon {tokens : List Token} (h : AllInner tokens) (colon : Bool) (pos : Nat) :
    Segment.upTo [";", ":"] (placeFrom pos (tokens ++ if colon then [.mark ":"] else [])) =
      ⟨placeFrom pos tokens, [], if colon then some ":" else none⟩ := by
  have hinside : ∀ tok ∈ tokens, endsStatement [";", ":"] tok = false :=
    fun tok htok => (h tok htok).inside
  cases colon with
  | false => simpa using Segment.upTo_placeFrom hinside pos
  | true =>
      have hmark : ∀ col, Segment.upTo [";", ":"] [⟨.op, ":", col⟩] = ⟨[], [], some ":"⟩ := by
        simp [Segment.upTo, endsStatement]
      rw [placeFrom_append, Segment.upTo_append (inside_of_mem_placeFrom hinside pos)]
      simp [hmark]

/-! ## Candidates -/

/-- Where the only token of a candidate stands does not matter for which family takes it. -/
theorem starts_col (kind : TokenKind) (text : String) (col : Nat) :
    Handler.starts ⟨[], ⟨kind, text, col⟩⟩ = Handler.starts ⟨[], ⟨kind, text, 0⟩⟩ := by
  funext handler
  cases handler <;> rfl

theorem find?_starts_register {name : Register} (h : isRegister name = true) (col : Nat) :
    Handler.all.find? (Handler.starts ⟨[], ⟨.ident, name, col⟩⟩) = some .register := by
  have hall : ∀ register ∈ Register.all,
      Handler.all.find? (Handler.starts ⟨[], ⟨.ident, register, 0⟩⟩) = some .register := by
    decide +kernel
  rw [starts_col]
  exact hall name (by simpa [isRegister] using h)

theorem find?_starts_declaration {keyword : String} (h : keyword ∈ declarationWords) (col : Nat) :
    Handler.all.find? (Handler.starts ⟨[], ⟨.ident, keyword, col⟩⟩) = some .declaration := by
  have hall : ∀ word ∈ declarationWords,
      Handler.all.find? (Handler.starts ⟨[], ⟨.ident, word, 0⟩⟩) = some .declaration := by
    decide +kernel
  rw [starts_col]
  exact hall keyword h

/-- A name starts no statement by itself. -/
theorem find?_starts_name {name : String} (h : IsName name) (col : Nat) :
    Handler.all.find? (Handler.starts ⟨[], ⟨.ident, name, col⟩⟩) = none := by
  have hwords : ∀ word ∈ keywords, name ≠ word := by
    rintro word hword rfl
    exact not_mem_keywords_of_isName h hword
  have hstar : (Token.mk .ident name col).is "*" = false := is_ident h.1 col (by decide)
  have hand : (Token.mk .ident name col).is "&" = false := is_ident h.1 col (by decide)
  have hequals : (Token.mk .ident name col).is "=" = false := is_ident h.1 col (by decide)
  have hregister : (Token.mk .ident name col).isRegister = false := by
    simp [Token.isRegister, isRegister_of_isName h]
  simp only [keywords, List.mem_cons, List.not_mem_nil, or_false, forall_eq_or_imp,
    forall_eq] at hwords
  simp [Handler.all, Handler.starts, Candidate.isWord, Candidate.single, declarationWords, hstar,
    hand, hequals, hregister, hwords]

theorem dispatch_first {tok : Token} {rest : List Token} {handler : Handler} {segment : Segment}
    {statement : Statement}
    (hstarts : Handler.all.find? (Handler.starts ⟨[], tok⟩) = some handler)
    (hsegment : handler.segment rest = segment) (hrest : segment.rest = [])
    (hread : handler.read ⟨[], tok⟩ segment = .ok statement) :
    dispatch Handler.all (tok :: rest) = .ok [statement] := by
  subst hsegment
  rw [dispatch, dispatchOnto]
  simp [hstarts, hread, hrest, dispatchOnto]

/-- A line whose first token starts a statement of a family that only a semicolon ends. -/
theorem dispatch_line (handler : Handler) {first : Token} {body : List Token}
    {statement : Statement}
    (hstarts : Handler.all.find? (Handler.starts ⟨[], { first with col := 1 }⟩) = some handler)
    (hfamily : ∀ tokens, handler.segment tokens = .upTo [";"] tokens)
    (hinside : ∀ tok ∈ first :: body, endsStatement [";"] tok = false)
    (hread : ∀ pos, handler.read ⟨[], { first with col := 1 }⟩ ⟨placeFrom pos body, [], none⟩ =
      .ok statement) :
    dispatch Handler.all (placeFrom 0 (first :: body)) = .ok [statement] := by
  have hbody : ∀ tok ∈ body, endsStatement [";"] tok = false :=
    fun tok htok => hinside tok (List.mem_cons_of_mem _ htok)
  rw [placeFrom_cons]
  exact dispatch_first hstarts ((hfamily _).trans (Segment.upTo_placeFrom hbody _)) rfl (hread _)

/-- A line whose first token starts the head of a block or a construct, which a colon may
end. -/
theorem dispatch_head (handler : Handler) (colon : Bool) {first : Token} {body : List Token}
    {statement : Statement}
    (hstarts : Handler.all.find? (Handler.starts ⟨[], { first with col := 1 }⟩) = some handler)
    (hfamily : ∀ tokens, handler.segment tokens = .upTo [";", ":"] tokens)
    (hinner : AllInner (first :: body))
    (hread : ∀ pos, handler.read ⟨[], { first with col := 1 }⟩
      ⟨placeFrom pos body, [], if colon then some ":" else none⟩ = .ok statement) :
    dispatch Handler.all (placeFrom 0 (first :: body ++ if colon then [.mark ":"] else [])) =
      .ok [statement] := by
  have hbody := ((allInner_cons _ _).mp hinner).2
  rw [List.cons_append, placeFrom_cons]
  exact dispatch_first hstarts ((hfamily _).trans (Segment.upTo_colon hbody colon _)) rfl (hread _)

/-- Dispatching a line whose first token starts nothing, but whose first two tokens do. -/
theorem dispatch_second {first second : Token} {rest : List Token} {handler : Handler}
    {segment : Segment} {statement : Statement}
    (hfirst : Handler.all.find? (Handler.starts ⟨[], first⟩) = none)
    (hstarts : Handler.all.find? (Handler.starts ⟨[first], second⟩) = some handler)
    (hsegment : handler.segment rest = segment) (hrest : segment.rest = [])
    (hread : handler.read ⟨[first], second⟩ segment = .ok statement) :
    dispatch Handler.all (first :: second :: rest) = .ok [statement] := by
  subst hsegment
  rw [dispatch, dispatchOnto, hfirst]
  dsimp only
  rw [dispatchOnto]
  simp [hstarts, hread, hrest, dispatchOnto]

/-! ## Assignments to registers -/

/-- A register assignment is what its right hand side is read as. -/
theorem dispatch_assigned {dst : Register} {value : List Token} {statement : Statement}
    (hdst : isRegister dst = true) (hinner : AllInner (.word dst :: .mark "=" :: value))
    (hread : ∀ pos, readAssigned dst (placeFrom pos value) = .ok (statement, [])) :
    dispatch Handler.all (placeFrom 0 (.word dst :: .mark "=" :: value)) = .ok [statement] := by
  apply dispatch_line .register (find?_starts_register hdst _) (fun _ => rfl)
    (fun tok htok => inside_of_isInner (hinner tok htok))
  intro pos
  simp [Handler.read, readRegisterStatement, readUpdate, Token.is, hread, noMore_nil, bind,
    Except.bind, pure, Except.pure]

theorem readAssigned_move {dst src : Register} (hsrc : isRegister src = true) (pos : Nat) :
    readAssigned dst (placeFrom pos [.word src]) = .ok (.move dst src, []) := by
  simp [readAssigned, Token.isRegister, hsrc, readOperation]

theorem readAssigned_operate {dst src : Register} {op : Operator} {rhs : Operand}
    (hsrc : isRegister src = true) (hrhs : rhs.WellFormed) (pos : Nat) :
    readAssigned dst (placeFrom pos (.word src :: .mark op.symbol :: rhs.tokens)) =
      .ok (.operate dst src op rhs, []) := by
  have hop : Operator.ofSymbol? op.symbol = some op := by cases op <;> rfl
  have hread : ∀ pos, readOperand (placeFrom pos rhs.tokens) = .ok (rhs, []) := by
    intro pos
    simpa using readOperand_tokens hrhs pos []
  simp [readAssigned, Token.isRegister, hsrc, readOperation, hop, hread, bind, Except.bind, pure,
    Except.pure]

theorem readAssigned_address {dst : Register} {name : String} (hname : IsName name) (pos : Nat) :
    readAssigned dst (placeFrom pos [.mark "&", .word name]) = .ok (.address dst name, []) := by
  simp [readAssigned, Token.isRegister, readCast, Token.is, readAddressed,
    isRegister_of_isName hname, isName_ident hname, bind, Except.bind]

/-- After a cast, an address or a name has to follow. -/
private theorem readAssigned_castTokens (dst : Register) (cast : Cast) (pos : Nat) (tok : Token)
    (rest : List Token) :
    readAssigned dst (placeFrom pos (castTokens cast) ++ tok :: rest) =
      if tok.is "&" || tok.is "*" then
        readAddressed dst (some cast) (placeFrom pos (castTokens cast) ++ tok :: rest) rest
      else if tok.isName then .ok (.loadName dst tok.text (some cast), rest)
      else failWith .nameInvalid [tok.print] := by
  have hcast := readCast_tokens cast pos (tok :: rest)
  simp only [castTokens, placeFrom_cons, placeFrom_nil, List.cons_append, List.nil_append,
    Token.kind_mark, Token.text_mark, Token.kind_word, Token.text_word] at hcast ⊢
  simp [readAssigned, Token.isRegister, hcast, bind, Except.bind, pure, Except.pure]

theorem readAssigned_load {dst base : Register} {cast : Cast} {offset : Immediate}
    (hbase : isRegister base = true) (hoffset : offset.WellFormed) (pos : Nat) :
    readAssigned dst
        (placeFrom pos (castTokens cast ++ .mark "&" :: .word base :: offset.bracketed)) =
      .ok (.load dst cast base offset, []) := by
  have hread : ∀ pos, readIndex (placeFrom pos offset.bracketed) = .ok (offset, []) := by
    intro pos
    simpa using readIndex_bracketed hoffset pos []
  rw [placeFrom_append, placeFrom_cons, readAssigned_castTokens]
  simp [Token.is, readAddressed, Token.isRegister, hbase, hread, bind, Except.bind, pure,
    Except.pure]

theorem readAssigned_cast {dst : Register} {cast : Cast} {name : String} (hname : IsName name)
    (pos : Nat) :
    readAssigned dst (placeFrom pos (castTokens cast ++ [.word name])) =
      .ok (.loadName dst name (some cast), []) := by
  have hand : ∀ col, (Token.mk .ident name col).is "&" = false :=
    fun col => is_ident hname.1 col (by decide)
  have hstar : ∀ col, (Token.mk .ident name col).is "*" = false :=
    fun col => is_ident hname.1 col (by decide)
  rw [placeFrom_append, placeFrom_cons, readAssigned_castTokens]
  simp [hand, hstar, isName_ident hname]

/-- A value that starts with neither a cast nor the mark of an address is an immediate value. -/
private theorem readAssigned_immediate (dst : Register) {value : Immediate}
    (hvalue : value.WellFormed) (pos : Nat) :
    readAssigned dst (placeFrom pos value.tokens) =
      match value with
      | .name name => .ok (.loadName dst name none, [])
      | _ => .ok (.loadImmediate dst value, []) := by
  have hread := readImmediate_tokens hvalue pos []
  obtain ⟨tok, tokens, htokens, hhead⟩ := Immediate.head_tokens hvalue
  obtain ⟨hregister, hmark⟩ := hhead (pos + 1)
  rw [List.append_nil, htokens, placeFrom_cons] at hread
  rw [htokens, placeFrom_cons]
  simp only [readAssigned, hregister, readCast_of_is (hmark "(" (by decide) (by decide)),
    hmark "&" (by decide) (by decide), hmark "*" (by decide) (by decide), hread, bind, Except.bind,
    pure, Except.pure]
  cases value <;> rfl

/-! ## Stores -/

theorem readStored_tokens {cast : Cast} {src : Register} (hsrc : isRegister src = true)
    (target : Target) (pos : Nat) :
    readStored target (placeFrom pos (castTokens cast ++ [.word src])) =
      .ok (.store cast src target) := by
  rw [placeFrom_append, readStored, readCast_tokens]
  simp [readRegister_word hsrc, noMore_nil, bind, Except.bind, pure, Except.pure]

theorem dispatch_variableStore {cast : Cast} {src : Register} {name : String}
    (hname : IsName name) (hsrc : isRegister src = true)
    (hinner : AllInner (.word name :: .mark "=" :: (castTokens cast ++ [.word src]))) :
    dispatch Handler.all
        (placeFrom 0 (.word name :: .mark "=" :: (castTokens cast ++ [.word src]))) =
      .ok [.store cast src (.variable name)] := by
  -- the equals sign starts a store, since no register stands before it
  have hstarts : ∀ col col', Handler.all.find?
      (Handler.starts ⟨[⟨.ident, name, col⟩], ⟨.op, "=", col'⟩⟩) = some .store := by
    intro col col'
    simp [Handler.all, Handler.starts, Candidate.isWord, Candidate.single, declarationWords,
      Token.is, Token.isRegister, isRegister_of_isName hname]
  have hvalue : AllInner (castTokens cast ++ [.word src]) := by
    simp only [allInner_cons] at hinner
    exact hinner.2.2
  have hsegment : ∀ pos, Handler.segment (placeFrom pos (castTokens cast ++ [.word src])) .store =
      ⟨placeFrom pos (castTokens cast ++ [.word src]), [], none⟩ :=
    Segment.upTo_placeFrom fun tok htok => inside_of_isInner (hvalue tok htok)
  rw [placeFrom_cons, placeFrom_cons]
  apply dispatch_second (find?_starts_name hname _) (hstarts _ _) (hsegment _) rfl
  simp only [Handler.read, Candidate.single, List.isEmpty_cons, Bool.false_eq_true, ↓reduceIte,
    List.reverse_cons, List.reverse_nil, List.nil_append, readVariableStore, isName_ident hname,
    readStored_tokens hsrc]

theorem readMemoryStore_tokens {cast : Cast} {src base : Register} {offset : Immediate}
    (hsrc : isRegister src = true) (hbase : isRegister base = true) (hoffset : offset.WellFormed)
    (mark : Token) (pos : Nat) :
    readMemoryStore mark (placeFrom pos
        (.word base :: offset.bracketed ++ .mark "=" :: castTokens cast ++ [.word src])) =
      .ok (.store cast src (.memory base offset)) := by
  rw [List.append_assoc, List.cons_append, List.cons_append, placeFrom_cons, placeFrom_append,
    placeFrom_cons, readMemoryStore]
  simp only [Token.kind_word, Token.text_word, readRegister_word hbase,
    readIndex_bracketed hoffset, bind, Except.bind]
  exact readStored_tokens hsrc _ _

/-! ## Statements -/

theorem dispatch_block {head : BlockHead} (h : head.WellFormed) (colon : Bool)
    (hinner : AllInner head.tokens) :
    dispatch Handler.all (placeFrom 0 (head.tokens ++ if colon then [.mark ":"] else [])) =
      .ok [.block head colon] := by
  -- whether there was a colon is read off the terminator
  have hcolon : ((if colon then some ":" else none) == some ":") = colon := by
    cases colon <;> rfl
  cases head with
  | compile =>
      refine dispatch_head .compile colon (by decide +kernel) (fun _ => rfl) hinner ?_
      intro pos
      simp [Handler.read, readPlainBlock, noMore_nil, hcolon, bind, Except.bind, pure, Except.pure]
  | main =>
      refine dispatch_head .main colon (by decide +kernel) (fun _ => rfl) hinner ?_
      intro pos
      simp [Handler.read, readPlainBlock, noMore_nil, hcolon, bind, Except.bind, pure, Except.pure]
  | function name =>
      refine dispatch_head .function colon (by decide +kernel) (fun _ => rfl) hinner ?_
      intro pos
      simp [Handler.read, readFunction, isName_ident h, noMore_nil, hcolon, bind, Except.bind,
        pure, Except.pure]

/-- The condition of a loop is not taken for `true`, as it starts with a register. -/
theorem readLoop_tokens {cond : Condition} (h : cond.WellFormed) (pos : Nat) :
    readLoop (placeFrom pos cond.tokens) = .ok (.loop (some cond)) := by
  have hread := readCondition_tokens h pos
  obtain ⟨name, tokens, htokens, hname⟩ := Condition.isRegister_head h
  have hne : name ≠ "true" := by
    rintro rfl
    exact absurd hname (by decide)
  rw [htokens, placeFrom_cons] at hread ⊢
  simp only [Token.kind_word, Token.text_word] at hread ⊢
  simp [readLoop, hne, hread, bind, Except.bind, pure, Except.pure]

/-- Dispatching the tokens of a well-formed statement gives the statement back, unless it loads
a name as an immediate value. -/
theorem dispatch_tokens {statement : Statement} (h : statement.WellFormed)
    (hname : ∀ dst name, statement ≠ .loadImmediate dst (.name name)) :
    dispatch Handler.all (placeFrom 0 statement.tokens) = .ok [statement] := by
  have hinner := Statement.allInner_front h
  cases statement with
  | block head colon => exact dispatch_block h colon (hinner rfl)
  | branch cond =>
      refine dispatch_head .branch true (by decide +kernel) (fun _ => rfl) (hinner rfl) ?_
      intro pos
      simp [Handler.read, readCondition_tokens h, bind, Except.bind, pure, Except.pure]
  | otherwise =>
      exact dispatch_head .otherwise true (by decide +kernel) (fun _ => rfl) (hinner rfl)
        (fun _ => rfl)
  | loop cond? =>
      cases cond? with
      | none =>
          refine dispatch_head .loop true (by decide +kernel) (fun _ => rfl) (hinner rfl) ?_
          intro pos
          simp [Handler.read, readLoop, noMore_nil, bind, Except.bind, pure, Except.pure]
      | some cond =>
          refine dispatch_head .loop true (by decide +kernel) (fun _ => rfl) (hinner rfl) ?_
          intro pos
          exact readLoop_tokens (h cond rfl) pos
  | close =>
      exact dispatch_head .close false (by decide +kernel) (fun _ => rfl) (hinner rfl)
        (fun _ => rfl)
  | call name =>
      rw [Statement.tokens_eq_front rfl]
      refine dispatch_line .call (by decide +kernel) (fun _ => rfl)
        (fun tok htok => inside_of_isInner (hinner rfl tok htok)) ?_
      intro pos
      simp [Handler.read, readCall, isName_ident h, noMore_nil, bind, Except.bind, pure,
        Except.pure]
  | comment text => exact dispatch_first rfl rfl rfl rfl
  | move dst src =>
      rw [Statement.tokens_eq_front rfl]
      exact dispatch_assigned h.1 (hinner rfl) (readAssigned_move h.2)
  | address dst name =>
      rw [Statement.tokens_eq_front rfl]
      exact dispatch_assigned h.1 (hinner rfl) (readAssigned_address h.2)
  | load dst cast base offset =>
      rw [Statement.tokens_eq_front rfl]
      exact dispatch_assigned h.1 (hinner rfl) (readAssigned_load h.2.1 h.2.2)
  | loadName dst name cast? =>
      rw [Statement.tokens_eq_front (by cases cast? <;> rfl)]
      cases cast? with
      | none =>
          -- without a cast the name is read like an immediate value
          have hvalue : (Immediate.name name).WellFormed := h.2
          exact dispatch_assigned h.1 (hinner rfl) (readAssigned_immediate dst hvalue)
      | some cast => exact dispatch_assigned h.1 (hinner rfl) (readAssigned_cast h.2)
  | loadImmediate dst value =>
      rw [Statement.tokens_eq_front rfl]
      refine dispatch_assigned h.1 (hinner rfl) ?_
      cases value with
      | name name => exact absurd rfl (hname dst name)
      | number text => exact readAssigned_immediate dst h.2
      | char text => exact readAssigned_immediate dst h.2
      | expr text => exact readAssigned_immediate dst h.2
  | operate dst src op rhs =>
      rw [Statement.tokens_eq_front rfl]
      exact dispatch_assigned h.1 (hinner rfl) (readAssigned_operate h.2.1 h.2.2)
  | store cast src target =>
      cases target with
      | «variable» name =>
          rw [Statement.tokens_eq_front rfl]
          exact dispatch_variableStore h.2 h.1 (hinner rfl)
      | memory base offset =>
          rw [Statement.tokens_eq_front rfl]
          exact dispatch_line .store (by decide +kernel) (fun _ => rfl)
            (fun tok htok => inside_of_isInner (hinner rfl tok htok))
            (readMemoryStore_tokens h.1 h.2.1 h.2.2 _)
  | declare declaration =>
      rw [Statement.tokens_eq_front rfl]
      -- the value of a constant may hold a colon, which does not end a declaration
      have hinside := fun tok htok => (Declaration.inside_of_mem_tokens h tok htok).2
      obtain ⟨keyword, tokens, htokens, hkeyword, hread⟩ := readDeclaration_tokens h
      rw [htokens] at hinside
      rw [Statement.front, htokens]
      refine dispatch_line .declaration (find?_starts_declaration hkeyword _) (fun _ => rfl)
        hinside ?_
      intro pos
      simp [Handler.read, hread, bind, Except.bind, pure, Except.pure]

/-- The statement that the source form of a statement is read as.  A name on the right of an
assignment may turn out to be a variable, so it is never read as an immediate value. -/
def Statement.asRead : Statement → Statement
  | loadImmediate dst (.name name) => loadName dst name none
  | statement => statement

theorem Statement.asRead_eq_self {statement : Statement}
    (h : ∀ dst name, statement ≠ .loadImmediate dst (.name name)) :
    statement.asRead = statement := by
  unfold asRead
  split
  · rename_i dst name
    exact absurd rfl (h dst name)
  · rfl

/-- A printed statement is lexed without a problem, and dispatching its tokens gives the
statement back, and nothing else.  Only a name that is loaded as an immediate value comes back
as the loading of that name. -/
theorem dispatch_lex_print {statement : Statement} (h : statement.WellFormed) :
    (lex statement.print).problem? = none ∧
      dispatch Handler.all (lex statement.print).tokens = .ok [statement.asRead] := by
  rw [Statement.lex_print h]
  refine ⟨rfl, ?_⟩
  by_cases hname : ∃ dst name, statement = .loadImmediate dst (.name name)
  · -- the source form is that of loading the name, which is well-formed for the same reasons
    obtain ⟨dst, name, rfl⟩ := hname
    have hload : (Statement.loadName dst name none).WellFormed := h
    exact dispatch_tokens hload (by simp)
  · have hne : ∀ dst name, statement ≠ .loadImmediate dst (.name name) :=
      fun dst name heq => hname ⟨dst, name, heq⟩
    rw [Statement.asRead_eq_self hne]
    exact dispatch_tokens h hne

/-- A minus sign before a number is its sign, also directly after the operator. -/
theorem dispatch_lex_print_difference :
    dispatch Handler.all (lex "r1 = r2 - - 5").tokens =
      .ok [.operate "r1" "r2" .sub (.immediate (.number "-5"))] := by
  have hwell : (Statement.operate "r1" "r2" .sub (.immediate (.number "-5"))).WellFormed :=
    ⟨by decide, by decide, by decide +kernel, "5", by decide +kernel, .inr rfl⟩
  exact (dispatch_lex_print hwell).2

/-- A name cannot be loaded as an immediate value: its source form is that of loading a
name. -/
theorem name_not_read_as_immediate :
    (Statement.loadImmediate "r1" (.name "foo")).WellFormed ∧
      dispatch Handler.all (lex (Statement.loadImmediate "r1" (.name "foo")).print).tokens ≠
        .ok [.loadImmediate "r1" (.name "foo")] := by
  have hwell : (Statement.loadImmediate "r1" (.name "foo")).WellFormed :=
    ⟨by decide, by decide +kernel, by decide +kernel⟩
  have hload : (Statement.loadName "r1" "foo" none).WellFormed := hwell
  refine ⟨hwell, ?_⟩
  rw [Statement.lex_print hwell]
  intro himmediate
  have hname := dispatch_tokens hload (by simp)
  have hsame := himmediate.symm.trans hname
  simp at hsame

end Shorthand
