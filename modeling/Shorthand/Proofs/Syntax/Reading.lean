import Shorthand.Proofs.Syntax.Printing

/-!
# Reading printed parts back

Every reader takes the tokens of what it reads off the front of a list, wherever on the line
they stand, and leaves the rest alone: `readImmediate_tokens`, `readOperand_tokens`,
`readIndex_bracketed`, `readCast_tokens`, `readCondition_tokens`, `readDeclaration_tokens`.

## Strategy

Two things could go wrong.  The first token of a part could be taken for something else: the
minus sign of a number for an operator, or a name for a register, a mark or a keyword.  A name
is a lexeme of its own kind, so it is none of them (`is_ident`, `Immediate.head_tokens`).  And a
list could be split in the middle of a part: conditions at `&&` and `||`, initial values at
commas.  None of the parts holds the mark that it is split at (`isOp_of_mem_comparison`,
`isOp_of_mem_conjunction`, `isOp_of_mem_immediate`), so splitting gives the parts back, and
joining them from the left gives the condition, because it associates to the left.
-/

namespace Shorthand

open Machine Text

/-! ## Single tokens -/

/-- A name, a keyword or a register is never taken for a mark. -/
theorem is_ident {text symbol : String} (h : (Token.word text).IsLexeme) (col : Nat)
    (hsymbol : symbol ∈ operators) : (Token.mk .ident text col).is symbol = false := by
  have hne : text ≠ symbol := by
    rintro rfl
    exact not_mem_operators_of_isLexeme h hsymbol
  simp [Token.is, hne]

theorem isRegister_of_isName {name : String} (h : IsName name) : isRegister name = false := by
  have hname := h.2
  simp only [Token.isName, isNameText, Token.kind_word, Token.text_word, beq_self_eq_true,
    Bool.true_and, Bool.and_eq_true, Bool.not_eq_true'] at hname
  exact hname.1

theorem not_mem_keywords_of_isName {name : String} (h : IsName name) : name ∉ keywords := by
  have hname := h.2
  simp only [Token.isName, isNameText, Token.kind_word, Token.text_word, beq_self_eq_true,
    Bool.true_and, Bool.and_eq_true, Bool.not_eq_true'] at hname
  simpa using hname.2

theorem isName_ident {name : String} (h : IsName name) (col : Nat) :
    (Token.mk .ident name col).isName = true := h.2

/-! ## Operands -/

theorem readImmediate_tokens {value : Immediate} (h : value.WellFormed) (pos : Nat)
    (rest : List Token) :
    readImmediate (placeFrom pos value.tokens ++ rest) = .ok (value, rest) := by
  -- a single token is read by itself, unless it is a minus sign before a number
  have hsingle : ∀ tok : Token, tok.is "-" = false → tokenImmediate tok = .ok value →
      readImmediate (tok :: rest) = .ok (value, rest) := by
    intro tok hminus hvalue
    cases rest with
    | nil => simp [readImmediate, hvalue, bind, Except.bind, pure, Except.pure]
    | cons next rest => simp [readImmediate, hminus, hvalue, bind, Except.bind, pure, Except.pure]
  cases value with
  | number text =>
      obtain ⟨hnumber, digits, hdigits, rfl | rfl⟩ := h
      · rw [tokens_number hdigits]
        apply hsingle
        · simp [Token.is]
        · simp [tokenImmediate, numberImmediate, hnumber]
      · rw [tokens_negated]
        simp [readImmediate, Token.is, numberImmediate, hnumber, bind, Except.bind, pure,
          Except.pure]
  | char text =>
      apply hsingle
      · simp [Token.is]
      · rfl
  | expr text =>
      apply hsingle
      · simp [Token.is]
      · rfl
  | name text =>
      apply hsingle
      · exact is_ident h.1 _ (by decide)
      · simp [tokenImmediate, isRegister_of_isName h, isName_ident h]

/-- The first token of an immediate value is no register, and no mark but a minus sign. -/
theorem Immediate.head_tokens {value : Immediate} (h : value.WellFormed) :
    ∃ tok tokens, value.tokens = tok :: tokens ∧ ∀ col, { tok with col }.isRegister = false ∧
      ∀ symbol ∈ operators, symbol ≠ "-" → { tok with col }.is symbol = false := by
  cases value with
  | number text =>
      obtain ⟨-, digits, hdigits, rfl | rfl⟩ := h
      · exact ⟨_, _, tokens_number hdigits, by simp [Token.isRegister, Token.is]⟩
      · refine ⟨_, _, tokens_negated digits, fun col => ⟨by simp [Token.isRegister], ?_⟩⟩
        intro symbol _ hne
        simp [Token.is, hne.symm]
  | char text => exact ⟨_, _, rfl, by simp [Token.isRegister, Token.is]⟩
  | expr text => exact ⟨_, _, rfl, by simp [Token.isRegister, Token.is]⟩
  | name text =>
      refine ⟨_, _, rfl, fun col => ⟨by simp [Token.isRegister, isRegister_of_isName h], ?_⟩⟩
      exact fun symbol hsymbol _ => is_ident h.1 col hsymbol

theorem readRegister_word {name : Register} (h : isRegister name = true) (col : Nat)
    (rest : List Token) : readRegister (⟨.ident, name, col⟩ :: rest) = .ok (name, rest) := by
  simp [readRegister, Token.isRegister, h]

theorem readOperand_tokens {operand : Operand} (h : operand.WellFormed) (pos : Nat)
    (rest : List Token) :
    readOperand (placeFrom pos operand.tokens ++ rest) = .ok (operand, rest) := by
  cases operand with
  | register name =>
      have hname : isRegister name = true := h
      simp [Operand.tokens, readOperand, Token.isRegister, hname]
  | immediate value =>
      have hvalue := readImmediate_tokens h pos rest
      obtain ⟨tok, tokens, htokens, htok⟩ := Immediate.head_tokens h
      simp only [Operand.tokens, htokens, placeFrom_cons, List.cons_append] at hvalue ⊢
      simp [readOperand, htok, hvalue, bind, Except.bind, pure, Except.pure]

/-- What stands in brackets is read together with the closing one. -/
theorem readBracketed_tokens {value : Immediate} (h : value.WellFormed) (bracket : Token)
    (pos col : Nat) (rest : List Token) :
    readBracketed bracket (placeFrom pos value.tokens ++ ⟨.op, "]", col⟩ :: rest) =
      .ok (value, rest) := by
  simp [readBracketed, readImmediate_tokens h, Token.is, bind, Except.bind, pure, Except.pure]

theorem readIndex_bracketed {value : Immediate} (h : value.WellFormed) (pos : Nat)
    (rest : List Token) :
    readIndex (placeFrom pos value.bracketed ++ rest) = .ok (value, rest) := by
  simp [Immediate.bracketed, readIndex, Token.is, readBracketed_tokens h]

theorem readSize_bracketed {value : Immediate} (h : value.WellFormed) (pos : Nat)
    (rest : List Token) : readSize (placeFrom pos value.bracketed ++ rest) = .ok (value, rest) := by
  simp [Immediate.bracketed, readSize, Token.is, readBracketed_tokens h]

theorem readCast_tokens (cast : Cast) (pos : Nat) (rest : List Token) :
    readCast (placeFrom pos (castTokens cast) ++ rest) = .ok (some cast, rest) := by
  have hname : Cast.ofName? cast.name = some cast := by
    obtain ⟨byte, uncached⟩ := cast
    cases byte <;> cases uncached <;> rfl
  simp [castTokens, readCast, Token.is, hname]

theorem readCast_of_is {tok : Token} (h : tok.is "(" = false) (rest : List Token) :
    readCast (tok :: rest) = .ok (none, tok :: rest) := by
  simp [readCast, h]

theorem noMore_nil : noMore [] = .ok () := rfl

/-! ## Splitting at a mark -/

theorem splitAtOp_of_forall {separator : String} {tokens : List Token}
    (h : ∀ tok ∈ tokens, tok.isOp separator = false) : splitAtOp separator tokens = [tokens] := by
  induction tokens with
  | nil => rfl
  | cons tok tokens ih =>
      have hrest := ih fun other hother => h other (List.mem_cons_of_mem _ hother)
      simp [splitAtOp, h tok (by simp), hrest]

/-- The parts before a mark and the parts after it are all the parts. -/
theorem splitAtOp_append {separator : String} {tok : Token} (htok : tok.isOp separator = true)
    (first second : List Token) :
    splitAtOp separator (first ++ tok :: second) =
      splitAtOp separator first ++ splitAtOp separator second := by
  induction first with
  | nil => simp [splitAtOp, htok]
  | cons other first ih =>
      by_cases hother : other.isOp separator = true
      · simp [splitAtOp, hother, ih]
      · simp only [List.cons_append, splitAtOp, hother, ih]
        cases hparts : splitAtOp separator first with
        | nil =>
            -- there is always a part, if only an empty one
            have hne : splitAtOp separator first ≠ [] := by
              cases first with
              | nil => simp [splitAtOp]
              | cons tok first => unfold splitAtOp; repeat' split <;> simp
            exact absurd hparts hne
        | cons part parts => simp

theorem splitAtOp_placeFrom {separator : String} {tokens : List Token}
    (h : ∀ tok ∈ tokens, tok.isOp separator = false) (pos : Nat) :
    splitAtOp separator (placeFrom pos tokens) = [placeFrom pos tokens] := by
  apply splitAtOp_of_forall
  intro tok htok
  obtain ⟨other, hother, heq⟩ := exists_of_mem_placeFrom htok
  rw [heq]
  exact h other hother

/-! ## Conditions -/

theorem Condition.wellFormed_of_isConjunction {cond : Condition} (h : cond.IsConjunction) :
    cond.WellFormed := by
  cases cond with
  | compare a cmp b => exact h
  | both lhs rhs => exact h
  | either lhs rhs => exact h.elim

/-- The first token of a condition is a register. -/
theorem Condition.isRegister_head {cond : Condition} (h : cond.WellFormed) :
    ∃ name tokens, cond.tokens = .word name :: tokens ∧ isRegister name = true := by
  induction cond with
  | compare a cmp b => exact ⟨a, _, rfl, h.1⟩
  | both lhs rhs ihl _ =>
      obtain ⟨name, tokens, htokens, hname⟩ := ihl (wellFormed_of_isConjunction h.1)
      exact ⟨name, tokens ++ .mark "&&" :: rhs.tokens, by simp [Condition.tokens, htokens], hname⟩
  | either lhs rhs ihl _ =>
      obtain ⟨name, tokens, htokens, hname⟩ := ihl h.1
      exact ⟨name, tokens ++ .mark "||" :: rhs.tokens, by simp [Condition.tokens, htokens], hname⟩

theorem isOp_of_mem_comparison {cond : Condition} (h : cond.IsComparison) {separator : String}
    (hseparator : separator = "&&" ∨ separator = "||") :
    ∀ tok ∈ cond.tokens, tok.isOp separator = false := by
  cases cond with
  | compare a cmp b =>
      have hcmp : (Token.mark cmp.symbol).isOp separator = false := by
        rcases hseparator with rfl | rfl <;> cases cmp <;> rfl
      intro tok htok
      simp only [Condition.tokens, List.mem_cons, List.not_mem_nil, or_false] at htok
      rcases htok with rfl | rfl | rfl
      · simp [Token.isOp]
      · exact hcmp
      · simp [Token.isOp]
  | both lhs rhs => exact h.elim
  | either lhs rhs => exact h.elim

theorem isOp_of_mem_conjunction {cond : Condition} (h : cond.IsConjunction) :
    ∀ tok ∈ cond.tokens, tok.isOp "||" = false := by
  induction cond with
  | compare a cmp b => exact isOp_of_mem_comparison h (.inr rfl)
  | both lhs rhs ihl _ =>
      intro tok htok
      simp only [Condition.tokens, List.mem_append, List.mem_cons] at htok
      rcases htok with hmem | rfl | hmem
      · exact ihl h.1 tok hmem
      · rfl
      · exact isOp_of_mem_comparison h.2 (.inr rfl) tok hmem
  | either lhs rhs => exact h.elim

theorem readComparison_tokens {cond : Condition} (h : cond.IsComparison) (pos : Nat) :
    readComparison (placeFrom pos cond.tokens) = .ok cond := by
  cases cond with
  | compare a cmp b =>
      have hcmp : Comparator.ofSymbol? cmp.symbol = some cmp := by cases cmp <;> rfl
      simp [Condition.tokens, readComparison, readRegister_word h.1, readRegister_word h.2, hcmp,
        noMore_nil, bind, Except.bind, pure, Except.pure]
  | both lhs rhs => exact h.elim
  | either lhs rhs => exact h.elim

/-- The parts between the marks are read one by one, and joined from the left they are the
condition. -/
def ReadsParts (separator : String) (read : List Token → Except Problem Condition)
    (join : Condition → Condition → Condition) (tokens : List Token) (cond : Condition) : Prop :=
  ∃ conds, (splitAtOp separator tokens).mapM read = .ok conds ∧ joinLeft join conds = .ok cond

section Parts

variable {separator : String} {read : List Token → Except Problem Condition}
  {join : Condition → Condition → Condition}

theorem readsParts_single {tokens : List Token} {cond : Condition} {pos : Nat}
    (hnone : ∀ tok ∈ tokens, tok.isOp separator = false)
    (hread : read (placeFrom pos tokens) = .ok cond) :
    ReadsParts separator read join (placeFrom pos tokens) cond := by
  refine ⟨[cond], ?_, rfl⟩
  simp [splitAtOp_placeFrom hnone, hread, bind, Except.bind, pure, Except.pure]

/-- One more part on the right is joined to all those before it. -/
theorem readsParts_snoc {first tokens : List Token} {tok : Token} {lhs rhs : Condition} {pos : Nat}
    (hfirst : ReadsParts separator read join first lhs) (htok : tok.isOp separator = true)
    (hnone : ∀ tok ∈ tokens, tok.isOp separator = false)
    (hread : read (placeFrom pos tokens) = .ok rhs) :
    ReadsParts separator read join (first ++ tok :: placeFrom pos tokens) (join lhs rhs) := by
  obtain ⟨conds, hconds, hjoin⟩ := hfirst
  refine ⟨conds ++ [rhs], ?_, ?_⟩
  · rw [splitAtOp_append htok, splitAtOp_placeFrom hnone]
    simp [List.mapM_append, hconds, hread, bind, Except.bind, pure, Except.pure]
  · cases conds with
    | nil => simp [joinLeft, failWith] at hjoin
    | cons head conds =>
        obtain rfl := Except.ok.inj hjoin
        simp [joinLeft]

end Parts

theorem readConjunction_tokens {cond : Condition} (h : cond.IsConjunction) (pos : Nat) :
    readConjunction (placeFrom pos cond.tokens) = .ok cond := by
  suffices hparts : ReadsParts "&&" readComparison .both (placeFrom pos cond.tokens) cond by
    obtain ⟨conds, hread, hjoin⟩ := hparts
    simp [readConjunction, hread, hjoin, bind, Except.bind]
  induction cond with
  | compare a cmp b =>
      exact readsParts_single (isOp_of_mem_comparison h (.inl rfl)) (readComparison_tokens h pos)
  | both lhs rhs ihl _ =>
      simp only [Condition.tokens, placeFrom_append, placeFrom_cons]
      exact readsParts_snoc (ihl h.1) rfl (isOp_of_mem_comparison h.2 (.inl rfl))
        (readComparison_tokens h.2 _)
  | either lhs rhs => exact h.elim

theorem readCondition_tokens {cond : Condition} (h : cond.WellFormed) (pos : Nat) :
    readCondition (placeFrom pos cond.tokens) = .ok cond := by
  -- the induction follows the alternatives; a part without them is read as a whole
  have hparts : ReadsParts "||" readConjunction .either (placeFrom pos cond.tokens) cond := by
    induction cond with
    | compare a cmp b =>
        exact readsParts_single (isOp_of_mem_conjunction h) (readConjunction_tokens h pos)
    | both lhs rhs =>
        exact readsParts_single (isOp_of_mem_conjunction h) (readConjunction_tokens h pos)
    | either lhs rhs ihl _ =>
        simp only [Condition.tokens, placeFrom_append, placeFrom_cons]
        exact readsParts_snoc (ihl h.1) rfl (isOp_of_mem_conjunction h.2)
          (readConjunction_tokens h.2 _)
  obtain ⟨conds, hread, hjoin⟩ := hparts
  obtain ⟨name, tokens, htokens, -⟩ := Condition.isRegister_head h
  rw [htokens, placeFrom_cons] at hread ⊢
  simp only [readCondition, hread, bind, Except.bind]
  exact hjoin

/-! ## Declarations -/

theorem readName_ident {name : String} (h : IsName name) (col : Nat) (rest : List Token) :
    readName (⟨.ident, name, col⟩ :: rest) = .ok (name, rest) := by
  simp [readName, isName_ident h]

theorem isOp_of_mem_immediate {value : Immediate} (h : value.WellFormed) :
    ∀ tok ∈ value.tokens, tok.isOp "," = false := by
  cases value with
  | number text =>
      obtain ⟨-, digits, hdigits, rfl | rfl⟩ := h
      · simp [tokens_number hdigits, Token.isOp]
      · simp [tokens_negated, Token.isOp]
  | char text => simp [Immediate.tokens, Token.isOp]
  | expr text => simp [Immediate.tokens, Token.isOp]
  | name text => simp [Immediate.tokens, Token.isOp]

theorem readInitial_tokens {value : Immediate} (h : value.WellFormed) (pos : Nat) :
    readInitial (placeFrom pos value.tokens) = .ok value := by
  have hread := readImmediate_tokens h pos []
  rw [List.append_nil] at hread
  simp [readInitial, hread, noMore_nil, bind, Except.bind, pure, Except.pure]

/-- Initial values are split at the commas between them. -/
theorem mapM_readInitial {first : Immediate} {rest : List Immediate} (hfirst : first.WellFormed)
    (hrest : ∀ value ∈ rest, value.WellFormed) (pos : Nat) :
    (splitAtOp "," (placeFrom pos
      (first.tokens ++ rest.flatMap fun value => .mark "," :: value.tokens))).mapM readInitial =
        .ok (first :: rest) := by
  induction rest generalizing first pos with
  | nil =>
      simp [splitAtOp_placeFrom (isOp_of_mem_immediate hfirst), readInitial_tokens hfirst, bind,
        Except.bind, pure, Except.pure]
  | cons next rest ih =>
      have hnext := ih (hrest next (by simp)) (fun value hvalue => hrest value (by simp [hvalue]))
        (endFrom pos first.tokens + (Token.mark ",").print.length + 1)
      rw [List.flatMap_cons, List.cons_append, placeFrom_append, placeFrom_cons,
        splitAtOp_append rfl, splitAtOp_placeFrom (isOp_of_mem_immediate hfirst),
        List.singleton_append, List.mapM_cons, readInitial_tokens hfirst]
      simp only [hnext, bind, Except.bind, pure, Except.pure]

theorem readSized_scalar {width : Width} {name : String} {init : List Immediate}
    (hname : IsName name) (hinit : ∀ value ∈ init, value.WellFormed) (pos : Nat) :
    readSized width (placeFrom pos (.word name :: initialTokens init)) =
      .ok (.scalar width name init) := by
  -- no name is taken for the bracket of a size
  have hbracket : ∀ col, (Token.mk .ident name col).is "[" = false :=
    fun col => is_ident hname.1 col (by decide)
  cases init with
  | nil =>
      simp [initialTokens, readSized, hbracket, readName_ident hname, bind, Except.bind, pure,
        Except.pure]
  | cons first rest =>
      have hrest : ∀ value ∈ rest, value.WellFormed :=
        fun value hvalue => hinit value (List.mem_cons_of_mem _ hvalue)
      have hvalues := fun pos => mapM_readInitial (hinit first (by simp)) hrest pos
      have hequals : ∀ col, (Token.mk .op "=" col).is "=" = true := by simp [Token.is]
      simp only [initialTokens, List.cons_append, placeFrom_cons, Token.kind_word, Token.text_word,
        Token.kind_mark, Token.text_mark, readSized, List.head?_cons, Option.map_some,
        Option.getD_some, hbracket, Bool.false_eq_true, ↓reduceIte, readName_ident hname, hequals,
        hvalues, bind, Except.bind, pure, Except.pure]

theorem readSized_array {width : Width} {name : String} {size : Immediate} (hname : IsName name)
    (hsize : size.WellFormed) (pos : Nat) :
    readSized width (placeFrom pos (size.bracketed ++ [.word name])) =
      .ok (.array width name size) := by
  have hread := readSize_bracketed hsize pos [⟨.ident, name, endFrom pos size.bracketed + 1⟩]
  have hhead : ((placeFrom pos (size.bracketed ++ [.word name])).head?.map (·.is "[")).getD false =
      true := by
    simp [Immediate.bracketed, Token.is]
  rw [readSized, if_pos hhead]
  simp [hread, readName_ident hname, noMore_nil, bind, Except.bind, pure, Except.pure]

theorem readBuffer_tokens {name : String} {size : Immediate} (hname : IsName name)
    (hsize : size.WellFormed) (pos : Nat) :
    readBuffer (placeFrom pos (size.bracketed ++ [.word name])) = .ok (.buffer name size) := by
  have hread := readSize_bracketed hsize pos [⟨.ident, name, endFrom pos size.bracketed + 1⟩]
  simp [readBuffer, hread, readName_ident hname, noMore_nil, bind, Except.bind, pure, Except.pure]

theorem readString_tokens {name literal : String} (hname : IsName name) (pos : Nat) :
    readString (placeFrom pos [.word name, .mark "=", ⟨.string, literal, 0⟩]) =
      .ok (.string name literal) := by
  simp [readString, readName_ident hname, readEquals, Token.is, noMore_nil, bind, Except.bind, pure,
    Except.pure]

/-- The value of a constant is all that follows, without the blanks. -/
theorem readConst_equals {name value : String} {tokens : List Token} (hname : IsName name)
    (htokens : tokens ≠ []) (hvalue : value = String.join (tokens.map Token.print))
    (col col' : Nat) :
    readConst (⟨.ident, name, col⟩ :: ⟨.op, "=", col'⟩ :: tokens) = .ok (.const name value) := by
  simp [readConst, readName_ident hname, readEquals, Token.is, htokens, hvalue, bind, Except.bind,
    pure, Except.pure]

theorem readConst_tokens {name value : String} {tokens : List Token} (hname : IsName name)
    (htokens : tokens ≠ []) (hvalue : value = String.join (tokens.map Token.print)) (pos : Nat) :
    readConst (placeFrom pos (.word name :: .mark "=" :: tokens)) = .ok (.const name value) := by
  have hplaced : ∀ pos, placeFrom pos tokens ≠ [] := by
    intro pos
    obtain ⟨tok, tokens, rfl⟩ := List.exists_cons_of_ne_nil htokens
    exact List.cons_ne_nil _ _
  rw [placeFrom_cons, placeFrom_cons]
  refine readConst_equals hname (hplaced _) ?_ _ _
  rw [map_print_placeFrom, hvalue]

/-- A declaration starts with its keyword, and what follows is read off its tokens. -/
theorem readDeclaration_tokens {declaration : Declaration} (h : declaration.WellFormed) :
    ∃ keyword tokens, declaration.tokens = .word keyword :: tokens ∧
      keyword ∈ declarationWords ∧
      ∀ pos, readDeclaration keyword (placeFrom pos tokens) = .ok declaration := by
  cases declaration with
  | scalar width name init =>
      refine ⟨width.keyword, .word name :: initialTokens init, rfl, by cases width <;> decide, ?_⟩
      intro pos
      cases width with
      | word => exact readSized_scalar h.1 h.2 pos
      | byte => exact readSized_scalar h.1 h.2 pos
  | array width name size =>
      refine ⟨width.keyword, size.bracketed ++ [.word name], rfl, by cases width <;> decide, ?_⟩
      intro pos
      cases width with
      | word => exact readSized_array h.1 h.2 pos
      | byte => exact readSized_array h.1 h.2 pos
  | string name literal => exact ⟨"string", _, rfl, by decide, readString_tokens h.1⟩
  | buffer name size => exact ⟨"var", _, rfl, by decide, readBuffer_tokens h.1 h.2⟩
  | const name value =>
      obtain ⟨hname, -, htokens, hvalue, -⟩ := h
      exact ⟨"const", _, rfl, by decide, readConst_tokens hname htokens hvalue⟩

end Shorthand
