import Shorthand.Proofs.Syntax.RoundTrip

/-!
# The grammar of assignments and declarations

The documented forms of the statements that start with a register, or with the keyword of a
variable: inductive predicates on lists of tokens, with one constructor for each form and the
statement that the form denotes (`Denotes`).  They say which tokens stand in which order, and not
how the tokens are read.

## Strategy

A reader takes what it reads off the front of the tokens.  `Reads` says that it takes exactly the
tokens of a form, whatever follows, and so do the readers of immediate values, operands and sizes
(`reads_immediate`, `reads_operand`, `reads_size`).  Offsets and casts may be missing, which is
decided by the mark that they start with: `ReadsOptional` says that nothing is taken if the tokens
do not start with it (`readsOptional_index`, `readsOptional_cast`).

The readers ask for the text of a mark, and a name could have this text.  In the tokens of a line it
never does, because they are lexemes (`Token.is_eq_isOp`).
-/

namespace Shorthand

open Machine Text

/-! ## Tokens of a line -/

/-- Whether the token is the keyword. -/
def Token.isWord (tok : Token) (word : String) : Bool := tok.kind == .ident && tok.text == word

/-- Whether the token is one of the two marks of an address. -/
def Token.isAddressMark (tok : Token) : Bool := tok.isOp "&" || tok.isOp "*"

theorem Token.isOp_iff {tok : Token} {symbol : String} :
    tok.isOp symbol = true ↔ tok.kind = .op ∧ tok.text = symbol := by
  simp [Token.isOp]

theorem Token.isWord_iff {tok : Token} {word : String} :
    tok.isWord word = true ↔ tok.kind = .ident ∧ tok.text = word := by
  simp [Token.isWord]

/-- A lexeme is taken for a mark only if it is one. -/
theorem Token.is_eq_isOp {tok : Token} (h : tok.IsLexeme) (symbol : String)
    (hsymbol : symbol ∈ operators) : tok.is symbol = tok.isOp symbol := by
  obtain ⟨kind, text, col⟩ := tok
  cases kind with
  | ident => exact is_ident h col hsymbol
  | _ => rfl

/-- All tokens are lexemes. -/
def AllLexemes (tokens : List Token) : Prop := ∀ tok ∈ tokens, tok.IsLexeme

theorem allLexemes_cons {tok : Token} {tokens : List Token} :
    AllLexemes (tok :: tokens) ↔ tok.IsLexeme ∧ AllLexemes tokens := by
  simp [AllLexemes]

theorem allLexemes_append {first second : List Token} :
    AllLexemes (first ++ second) ↔ AllLexemes first ∧ AllLexemes second := by
  simp [AllLexemes, or_imp, forall_and]

theorem allLexemes_lex (line : String) : AllLexemes (lex line).tokens :=
  fun _ => isLexeme_of_mem_lex

/-! ## The forms of operands -/

/-- The tokens of an immediate value. -/
inductive IsImmediate : List Token → Immediate → Prop where
  | number {tok : Token} (hkind : tok.kind = .number) (hnumber : Integer.isNumber tok.text = true) :
      IsImmediate [tok] (.number tok.text)
  | negated {minus tok : Token} (hminus : minus.isOp "-" = true) (hkind : tok.kind = .number)
      (hnumber : Integer.isNumber ("-" ++ tok.text) = true) :
      IsImmediate [minus, tok] (.number ("-" ++ tok.text))
  | char {tok : Token} (hkind : tok.kind = .char) : IsImmediate [tok] (.char tok.text)
  | expr {tok : Token} (hkind : tok.kind = .expr) : IsImmediate [tok] (.expr tok.text)
  | name {tok : Token} (hname : tok.isName = true) : IsImmediate [tok] (.name tok.text)

/-- The tokens of a register or an immediate value. -/
inductive IsOperand : List Token → Operand → Prop where
  | register {tok : Token} (h : tok.isRegister = true) : IsOperand [tok] (.register tok.text)
  | immediate {tokens : List Token} {value : Immediate} (h : IsImmediate tokens value) :
      IsOperand tokens (.immediate value)

/-- The tokens of an immediate value in brackets. -/
inductive IsBracketed : List Token → Immediate → Prop where
  | brackets {opening closing : Token} {tokens : List Token} {value : Immediate}
      (hopening : opening.isOp "[" = true) (h : IsImmediate tokens value)
      (hclosing : closing.isOp "]" = true) : IsBracketed (opening :: (tokens ++ [closing])) value

/-- The tokens of a cast in parentheses. -/
inductive IsCast : List Token → Option Cast → Prop where
  | parentheses {opening name closing : Token} {cast : Cast} (hopening : opening.isOp "(" = true)
      (hkind : name.kind = .ident) (hname : Cast.ofName? name.text = some cast)
      (hclosing : closing.isOp ")" = true) : IsCast [opening, name, closing] (some cast)

/-- The tokens of a part that may be missing. -/
inductive IsOptional {α : Type} (Form : List Token → α → Prop) (default : α) :
    List Token → α → Prop where
  | missing : IsOptional Form default [] default
  | present {tokens : List Token} {value : α} (h : Form tokens value) :
      IsOptional Form default tokens value

/-- The tokens of an offset in brackets; none at all stand for zero. -/
abbrev IsOffset : List Token → Immediate → Prop := IsOptional IsBracketed (.number "0")

/-- The tokens of a cast, if there is one. -/
abbrev IsCast? : List Token → Option Cast → Prop := IsOptional IsCast none

/-! ## The forms of statements -/

/-- The tokens of the right hand side of an assignment to a register.  A name alone is loaded, and
not taken for an immediate value. -/
inductive IsAssigned (dst : Register) : List Token → Statement → Prop where
  | move {src : Token} (hsrc : src.isRegister = true) : IsAssigned dst [src] (.move dst src.text)
  | address {mark name : Token} (hmark : mark.isAddressMark = true) (hname : name.isName = true) :
      IsAssigned dst [mark, name] (.address dst name.text)
  | load {castTokens indexTokens : List Token} {cast? : Option Cast} {mark base : Token}
      {offset : Immediate} (hcast : IsCast? castTokens cast?) (hmark : mark.isAddressMark = true)
      (hbase : base.isRegister = true) (hoffset : IsOffset indexTokens offset) :
      IsAssigned dst (castTokens ++ mark :: base :: indexTokens)
        (.load dst (cast?.getD .word) base.text offset)
  | loadName {castTokens : List Token} {cast? : Option Cast} {name : Token}
      (hcast : IsCast? castTokens cast?) (hname : name.isName = true) :
      IsAssigned dst (castTokens ++ [name]) (.loadName dst name.text cast?)
  | loadImmediate {tokens : List Token} {value : Immediate} (h : IsImmediate tokens value)
      (hne : ∀ name, value ≠ .name name) : IsAssigned dst tokens (.loadImmediate dst value)
  | operate {src mark : Token} {tokens : List Token} {op : Operator} {rhs : Operand}
      (hsrc : src.isRegister = true) (hmark : mark.isOp op.symbol = true)
      (hrhs : IsOperand tokens rhs) :
      IsAssigned dst (src :: mark :: tokens) (.operate dst src.text op rhs)

/-- The tokens of initial values, with commas between them. -/
inductive IsInitial : List Token → List Immediate → Prop where
  | last {tokens : List Token} {value : Immediate} (h : IsImmediate tokens value) :
      IsInitial tokens [value]
  | cons {comma : Token} {tokens rest : List Token} {value : Immediate} {values : List Immediate}
      (h : IsImmediate tokens value) (hcomma : comma.isOp "," = true)
      (hrest : IsInitial rest values) : IsInitial (tokens ++ comma :: rest) (value :: values)

/-- The tokens of the declaration of a variable. -/
inductive IsDeclared : List Token → Declaration → Prop where
  | scalar {keyword name : Token} {width : Width} (hkeyword : keyword.isWord width.keyword = true)
      (hname : name.isName = true) : IsDeclared [keyword, name] (.scalar width name.text [])
  | initialized {keyword name equals : Token} {tokens : List Token} {width : Width}
      {init : List Immediate} (hkeyword : keyword.isWord width.keyword = true)
      (hname : name.isName = true) (hequals : equals.isOp "=" = true)
      (hinit : IsInitial tokens init) :
      IsDeclared (keyword :: name :: equals :: tokens) (.scalar width name.text init)
  | array {keyword name : Token} {tokens : List Token} {width : Width} {size : Immediate}
      (hkeyword : keyword.isWord width.keyword = true) (hsize : IsBracketed tokens size)
      (hname : name.isName = true) :
      IsDeclared (keyword :: (tokens ++ [name])) (.array width name.text size)
  | string {keyword name equals literal : Token} (hkeyword : keyword.isWord "string" = true)
      (hname : name.isName = true) (hequals : equals.isOp "=" = true)
      (hliteral : literal.kind = .string) :
      IsDeclared [keyword, name, equals, literal] (.string name.text literal.text)
  | buffer {keyword name : Token} {tokens : List Token} {size : Immediate}
      (hkeyword : keyword.isWord "var" = true) (hsize : IsBracketed tokens size)
      (hname : name.isName = true) :
      IsDeclared (keyword :: (tokens ++ [name])) (.buffer name.text size)

/-- The tokens of a statement that starts with a register. -/
inductive IsUpdate : List Token → Statement → Prop where
  | assigned {dst equals : Token} {value : List Token} {statement : Statement}
      (hdst : dst.isRegister = true) (hequals : equals.isOp "=" = true)
      (h : IsAssigned dst.text value statement) : IsUpdate (dst :: equals :: value) statement
  | updated {dst mark : Token} {tokens : List Token} {op : Operator} {rhs : Operand}
      (hdst : dst.isRegister = true) (hmark : mark.isOp (op.symbol ++ "=") = true)
      (hrhs : IsOperand tokens rhs) :
      IsUpdate (dst :: mark :: tokens) (.operate dst.text dst.text op rhs)
  | incremented {dst mark : Token} (hdst : dst.isRegister = true) (hmark : mark.isOp "++" = true) :
      IsUpdate [dst, mark] (.operate dst.text dst.text .add (.immediate (.number "1")))
  | decremented {dst mark : Token} (hdst : dst.isRegister = true) (hmark : mark.isOp "--" = true) :
      IsUpdate [dst, mark] (.operate dst.text dst.text .sub (.immediate (.number "1")))

/-- The tokens of a statement that starts with a register, or with the keyword of a variable. -/
inductive Denotes : List Token → Statement → Prop where
  | update {tokens : List Token} {statement : Statement} (h : IsUpdate tokens statement) :
      Denotes tokens statement
  | declared {tokens : List Token} {declaration : Declaration}
      (h : IsDeclared tokens declaration) : Denotes tokens (.declare declaration)

/-! ## Readers of operands -/

theorem bind_eq_ok_iff {ε α β : Type} {x : Except ε α} {f : α → Except ε β} {b : β} :
    (x >>= f) = .ok b ↔ ∃ a, x = .ok a ∧ f a = .ok b := by
  cases x with
  | error e => simp [bind, Except.bind]
  | ok a => simp [bind, Except.bind]

theorem map_eq_ok_iff {ε α β : Type} {x : Except ε α} {f : α → β} {b : β} :
    f <$> x = .ok b ↔ ∃ a, x = .ok a ∧ f a = b := by
  cases x with
  | error e => simp [Functor.map, Except.map]
  | ok a => simp [Functor.map, Except.map]

theorem noMore_ok_iff {tokens : List Token} {u : Unit} : noMore tokens = .ok u ↔ tokens = [] := by
  cases tokens <;> simp [noMore, failWith]

/-- A reader that leaves no token over. -/
theorem whole_ok_iff {α β : Type} {x : Except Problem (Reading α)} {f : α → β} {b : β} :
    (do let (value, rest) ← x; noMore rest; return f value) = .ok b ↔
      ∃ value, x = .ok (value, []) ∧ f value = b := by
  simp only [bind_eq_ok_iff, noMore_ok_iff]
  constructor
  · rintro ⟨⟨value, rest⟩, hread, _, rfl, heq⟩
    exact ⟨value, hread, Except.ok.inj heq⟩
  · rintro ⟨value, hread, rfl⟩
    exact ⟨(value, []), hread, (), rfl, rfl⟩

/-- The reader takes exactly the tokens of the form off the front. -/
def Reads {α : Type} (read : List Token → Except Problem (Reading α))
    (Form : List Token → α → Prop) : Prop :=
  ∀ tokens value rest, AllLexemes tokens →
    (read tokens = .ok (value, rest) ↔ ∃ front, Form front value ∧ tokens = front ++ rest)

theorem numberImmediate_ok_iff {text : String} {value : Immediate} :
    numberImmediate text = .ok value ↔ Integer.isNumber text = true ∧ value = .number text := by
  cases hnumber : Integer.isNumber text <;> simp [numberImmediate, hnumber, failWith, eq_comm]

theorem Token.kind_of_isName {tok : Token} (h : tok.isName = true) : tok.kind = .ident := by
  simp only [Token.isName, Bool.and_eq_true, beq_iff_eq] at h
  exact h.1

/-- No name is a register. -/
theorem Token.isRegister_of_isName {tok : Token} (h : tok.isName = true) :
    tok.isRegister = false := by
  simp only [isName, isNameText, Bool.and_eq_true, Bool.not_eq_true'] at h
  simp [isRegister, h]

theorem isName_of_isLexeme {tok : Token} (hlexeme : tok.IsLexeme) (hname : tok.isName = true) :
    IsName tok.text := by
  have hkind := Token.kind_of_isName hname
  obtain ⟨kind, text, col⟩ := tok
  obtain rfl : kind = .ident := hkind
  exact ⟨hlexeme, hname⟩

theorem tokenImmediate_ok_iff {tok : Token} {value : Immediate} :
    tokenImmediate tok = .ok value ↔ IsImmediate [tok] value := by
  constructor
  · intro h
    unfold tokenImmediate at h
    split at h
    · rename_i hkind
      obtain ⟨hnumber, rfl⟩ := numberImmediate_ok_iff.mp h
      exact .number hkind hnumber
    · rename_i hkind
      cases h
      exact .char hkind
    · rename_i hkind
      cases h
      exact .expr hkind
    · split at h
      · cases h
      split at h
      · rename_i hname
        cases h
        exact .name hname
      · cases h
    · cases h
  · intro h
    cases h with
    | number hkind hnumber => simp [tokenImmediate, hkind, numberImmediate, hnumber]
    | char hkind => simp [tokenImmediate, hkind]
    | expr hkind => simp [tokenImmediate, hkind]
    | name hname =>
        have hkind := Token.kind_of_isName hname
        have hregister : Machine.isRegister tok.text = false := by
          simpa [Token.isRegister, hkind] using Token.isRegister_of_isName hname
        simp [tokenImmediate, hkind, hregister, hname]

/-- An immediate value is one token, or a number after a minus sign. -/
theorem IsImmediate.single_or_negated {front : List Token} {value : Immediate}
    (h : IsImmediate front value) :
    (∃ tok, front = [tok]) ∨ ∃ minus tok, front = [minus, tok] ∧ minus.isOp "-" = true ∧
      tok.kind = .number ∧ Integer.isNumber ("-" ++ tok.text) = true ∧
        value = .number ("-" ++ tok.text) := by
  cases h with
  | negated hminus hkind hnumber => exact .inr ⟨_, _, rfl, hminus, hkind, hnumber, rfl⟩
  | number | char | expr | name => exact .inl ⟨_, rfl⟩

/-- A register alone stands for no value. -/
theorem isRegister_of_isImmediate {tok : Token} {value : Immediate}
    (h : IsImmediate [tok] value) : tok.isRegister = false := by
  cases h with
  | number hkind | char hkind | expr hkind => simp [Token.isRegister, hkind]
  | name hname => exact Token.isRegister_of_isName hname

/-- A mark alone stands for no value. -/
theorem isOp_of_isImmediate {tok : Token} {value : Immediate} (h : IsImmediate [tok] value)
    (symbol : String) : tok.isOp symbol = false := by
  cases h with
  | number hkind | char hkind | expr hkind => simp [Token.isOp, hkind]
  | name hname => simp [Token.isOp, Token.kind_of_isName hname]

/-- A token that is no minus sign is read by itself. -/
theorem readImmediate_cons {tok : Token} (hminus : tok.is "-" = false) (rest : List Token) :
    readImmediate (tok :: rest) = (fun value => (value, rest)) <$> tokenImmediate tok := by
  cases rest <;> simp [readImmediate, hminus]

theorem readImmediate_minus {minus tok : Token} (hminus : minus.is "-" = true)
    (hkind : tok.kind = .number) (rest : List Token) :
    readImmediate (minus :: tok :: rest) =
      (fun value => (value, rest)) <$> numberImmediate ("-" ++ tok.text) := by
  simp [readImmediate, hminus, hkind]

theorem reads_immediate : Reads readImmediate IsImmediate := by
  intro tokens value rest hlexemes
  constructor
  · intro h
    rcases tokens with _ | ⟨tok, _ | ⟨next, more⟩⟩
    · cases h
    · obtain ⟨value, hvalue, heq⟩ := map_eq_ok_iff.mp h
      cases heq
      exact ⟨[tok], tokenImmediate_ok_iff.mp hvalue, rfl⟩
    · by_cases hsigned : tok.is "-" = true ∧ next.kind = .number
      · obtain ⟨hminus, hkind⟩ := hsigned
        rw [readImmediate_minus hminus hkind] at h
        obtain ⟨value, hvalue, heq⟩ := map_eq_ok_iff.mp h
        obtain ⟨hnumber, rfl⟩ := numberImmediate_ok_iff.mp hvalue
        cases heq
        rw [Token.is_eq_isOp (hlexemes tok (by simp)) _ (by decide)] at hminus
        exact ⟨[tok, next], .negated hminus hkind hnumber, rfl⟩
      · have hsingle : readImmediate (tok :: next :: more) =
            (fun value => (value, next :: more)) <$> tokenImmediate tok := by
          simp [readImmediate, hsigned]
        rw [hsingle] at h
        obtain ⟨value, hvalue, heq⟩ := map_eq_ok_iff.mp h
        cases heq
        exact ⟨[tok], tokenImmediate_ok_iff.mp hvalue, rfl⟩
  · rintro ⟨front, hfront, rfl⟩
    rcases hfront.single_or_negated with ⟨tok, rfl⟩ | ⟨minus, tok, rfl, hminus, hkind, hnumber, rfl⟩
    · have hminus : tok.is "-" = false :=
        (Token.is_eq_isOp (hlexemes tok (by simp)) _ (by decide)).trans
          (isOp_of_isImmediate hfront _)
      rw [List.cons_append, readImmediate_cons hminus, List.nil_append,
        tokenImmediate_ok_iff.mpr hfront]
      rfl
    · rw [← Token.is_eq_isOp (hlexemes minus (by simp)) _ (by decide)] at hminus
      rw [List.cons_append, List.cons_append, readImmediate_minus hminus hkind, List.nil_append,
        numberImmediate_ok_iff.mpr ⟨hnumber, rfl⟩]
      rfl

/-- The first token of an immediate value is no register, and no mark but a minus sign. -/
theorem exists_of_isImmediate {front : List Token} {value : Immediate}
    (h : IsImmediate front value) :
    ∃ tok more, front = tok :: more ∧ tok.isRegister = false ∧
      ∀ symbol, symbol ≠ "-" → tok.isOp symbol = false := by
  rcases h.single_or_negated with ⟨tok, rfl⟩ | ⟨minus, tok, rfl, hminus, -⟩
  · exact ⟨tok, [], rfl, isRegister_of_isImmediate h, fun _ _ => isOp_of_isImmediate h _⟩
  · rw [Token.isOp_iff] at hminus
    refine ⟨minus, [tok], rfl, by simp [Token.isRegister, hminus], fun symbol hne => ?_⟩
    simp [Token.isOp, hminus, hne.symm]

theorem reads_operand : Reads readOperand IsOperand := by
  intro tokens operand rest hlexemes
  constructor
  · intro h
    cases tokens with
    | nil => cases h
    | cons tok more =>
        unfold readOperand at h
        dsimp only at h
        split at h
        · rename_i hregister
          cases h
          exact ⟨[tok], .register hregister, rfl⟩
        · obtain ⟨⟨value, left⟩, hvalue, heq⟩ := bind_eq_ok_iff.mp h
          cases heq
          obtain ⟨front, hfront, heq⟩ := (reads_immediate _ _ _ hlexemes).mp hvalue
          exact ⟨front, .immediate hfront, heq⟩
  · rintro ⟨front, hfront, rfl⟩
    cases hfront with
    | register hregister => simp [readOperand, hregister]
    | immediate hvalue =>
        have hread := (reads_immediate _ _ rest hlexemes).mpr ⟨front, hvalue, rfl⟩
        obtain ⟨tok, more, rfl, hregister, -⟩ := exists_of_isImmediate hvalue
        rw [List.cons_append] at hread ⊢
        simp only [readOperand, hregister, hread, bind, Except.bind]
        rfl

/-- What is read in brackets is an immediate value with the closing one after it. -/
theorem readBracketed_ok_iff {bracket : Token} {tokens rest : List Token} {value : Immediate}
    (hlexemes : AllLexemes tokens) :
    readBracketed bracket tokens = .ok (value, rest) ↔
      ∃ front closing, IsImmediate front value ∧ closing.isOp "]" = true ∧
        tokens = front ++ closing :: rest := by
  constructor
  · intro h
    obtain ⟨⟨value, left⟩, hvalue, hleft⟩ := bind_eq_ok_iff.mp h
    obtain ⟨front, hfront, rfl⟩ := (reads_immediate _ _ _ hlexemes).mp hvalue
    cases left with
    | nil => cases hleft
    | cons closing left =>
        dsimp only at hleft
        split at hleft
        · rename_i hclosing
          cases hleft
          rw [Token.is_eq_isOp (hlexemes closing (by simp)) _ (by decide)] at hclosing
          exact ⟨front, closing, hfront, hclosing, rfl⟩
        · cases hleft
  · rintro ⟨front, closing, hfront, hclosing, rfl⟩
    rw [← Token.is_eq_isOp (hlexemes closing (by simp)) _ (by decide)] at hclosing
    have hread := (reads_immediate _ _ _ hlexemes).mpr ⟨front, hfront, rfl⟩
    simp [readBracketed, hread, hclosing, bind, Except.bind, pure, Except.pure]

/-- Brackets with an immediate value are read off the front after an opening bracket. -/
theorem readBracketed_cons_iff {opening : Token} {tokens rest : List Token} {value : Immediate}
    (hlexemes : AllLexemes (opening :: tokens)) (hopening : opening.isOp "[" = true) :
    readBracketed opening tokens = .ok (value, rest) ↔
      ∃ front, IsBracketed front value ∧ opening :: tokens = front ++ rest := by
  rw [readBracketed_ok_iff (allLexemes_cons.mp hlexemes).2]
  constructor
  · rintro ⟨front, closing, hfront, hclosing, rfl⟩
    exact ⟨_, .brackets hopening hfront hclosing, by simp⟩
  · rintro ⟨_, ⟨-, hfront, hclosing⟩, heq⟩
    simp only [List.cons_append, List.append_assoc, List.nil_append, List.cons.injEq] at heq
    exact ⟨_, _, hfront, hclosing, heq.2⟩

theorem reads_size : Reads readSize IsBracketed := by
  intro tokens size rest hlexemes
  cases tokens with
  | nil =>
      constructor
      · intro h
        cases h
      · rintro ⟨_, ⟨⟩, heq⟩
        cases heq
  | cons tok more =>
      have hmark := Token.is_eq_isOp (hlexemes tok (by simp)) "[" (by decide)
      cases hopening : tok.isOp "[" with
      | true =>
          rw [readSize, hmark, hopening, if_pos rfl]
          exact readBracketed_cons_iff hlexemes hopening
      | false =>
          rw [readSize, hmark, hopening]
          constructor
          · intro h
            cases h
          · rintro ⟨_, ⟨hbracket, -, -⟩, heq⟩
            cases heq
            rw [hopening] at hbracket
            cases hbracket

/-- The tokens do not start with the mark. -/
def LacksMark (symbol : String) (tokens : List Token) : Prop :=
  ∀ tok ∈ tokens.head?, tok.isOp symbol = false

theorem lacksMark_nil (symbol : String) : LacksMark symbol [] :=
  fun tok hnone => absurd hnone (Option.not_mem_none tok)

/-- The reader takes the form off the front if the tokens start with its mark, and nothing if they
do not. -/
def ReadsOptional {α : Type} (read : List Token → Except Problem (Reading α)) (symbol : String)
    (Form : List Token → α → Prop) (default : α) : Prop :=
  ∀ tokens value rest, AllLexemes tokens →
    (read tokens = .ok (value, rest) ↔ ∃ front, IsOptional Form default front value ∧
      tokens = front ++ rest ∧ (front = [] → LacksMark symbol rest))

/-- A reader of a part that may be missing can be told from what it does with the mark that the part
starts with and without it. -/
theorem readsOptional_of {α : Type} {read : List Token → Except Problem (Reading α)}
    {symbol : String} {Form : List Token → α → Prop} {default : α}
    (hform : ∀ front value, Form front value →
      ∃ opening more, front = opening :: more ∧ opening.isOp symbol = true)
    (hmissing : ∀ tokens, AllLexemes tokens → LacksMark symbol tokens →
      read tokens = .ok (default, tokens))
    (hpresent : ∀ opening more value rest, AllLexemes (opening :: more) →
      opening.isOp symbol = true →
        (read (opening :: more) = .ok (value, rest) ↔
          ∃ front, Form front value ∧ opening :: more = front ++ rest)) :
    ReadsOptional read symbol Form default := by
  intro tokens value rest hlexemes
  by_cases hlacks : LacksMark symbol tokens
  · rw [hmissing tokens hlexemes hlacks]
    constructor
    · intro h
      cases h
      exact ⟨[], .missing, rfl, fun _ => hlacks⟩
    · rintro ⟨front, hfront, rfl, -⟩
      cases hfront with
      | missing => rfl
      | present hfront =>
          obtain ⟨opening, more, rfl, hopening⟩ := hform _ _ hfront
          exact absurd hopening (by simpa using hlacks opening rfl)
  · obtain ⟨opening, more, rfl, hopening⟩ :
        ∃ opening more, tokens = opening :: more ∧ opening.isOp symbol = true := by
      cases tokens with
      | nil => exact absurd (lacksMark_nil symbol) hlacks
      | cons opening more => exact ⟨opening, more, rfl, by simpa [LacksMark] using hlacks⟩
    rw [hpresent opening more value rest hlexemes hopening]
    constructor
    · rintro ⟨front, hfront, heq⟩
      refine ⟨front, .present hfront, heq, ?_⟩
      rintro rfl
      obtain ⟨_, _, hnil, -⟩ := hform _ _ hfront
      cases hnil
    · rintro ⟨front, hfront, heq, hmark⟩
      cases hfront with
      | present hfront => exact ⟨front, hfront, heq⟩
      | missing =>
          subst heq
          exact absurd (hmark rfl) hlacks

/-- An offset is read if there is a bracket, and taken for zero if there is none. -/
theorem readsOptional_index : ReadsOptional readIndex "[" IsBracketed (.number "0") := by
  refine readsOptional_of ?_ ?_ ?_
  · rintro _ _ ⟨hopening, -, -⟩
    exact ⟨_, _, rfl, hopening⟩
  · intro tokens hlexemes hlacks
    cases tokens with
    | nil => rfl
    | cons tok more =>
        have hmark := Token.is_eq_isOp (hlexemes tok (by simp)) "[" (by decide)
        simp [readIndex, hmark, hlacks tok rfl]
  · intro opening more value rest hlexemes hopening
    have hmark := Token.is_eq_isOp (hlexemes opening (by simp)) "[" (by decide)
    rw [readIndex, hmark, hopening, if_pos rfl, readBracketed_cons_iff hlexemes hopening]

/-- A cast is read if there is a parenthesis. -/
theorem readsOptional_cast : ReadsOptional readCast "(" IsCast none := by
  refine readsOptional_of ?_ ?_ ?_
  · rintro _ _ ⟨hopening, -, -, -⟩
    exact ⟨_, _, rfl, hopening⟩
  · intro tokens hlexemes hlacks
    cases tokens with
    | nil => rfl
    | cons tok more =>
        have hmark := Token.is_eq_isOp (hlexemes tok (by simp)) "(" (by decide)
        exact readCast_of_is (hmark.trans (hlacks tok rfl)) more
  · intro opening more value rest hlexemes hopening
    have hmark := Token.is_eq_isOp (hlexemes opening (by simp)) "(" (by decide)
    constructor
    · intro h
      rcases more with _ | ⟨name, _ | ⟨closing, more⟩⟩
      · simp [readCast, hmark, hopening, failWith] at h
      · simp [readCast, hmark, hopening, failWith] at h
      · have hclosed := Token.is_eq_isOp (hlexemes closing (by simp)) ")" (by decide)
        simp only [readCast, hmark, hopening, if_pos, hclosed] at h
        split at h
        · rename_i hclosing
          split at h
          · rename_i cast hcast
            cases h
            obtain ⟨hkind, hname⟩ := Option.ite_none_right_eq_some.mp hcast
            exact ⟨_, .parentheses hopening (by simpa using hkind) hname hclosing, rfl⟩
          · cases h
        · cases h
    · rintro ⟨_, ⟨-, hkind, hname, hclosing⟩, heq⟩
      cases heq
      have hclosed := Token.is_eq_isOp (hlexemes _ (by simp)) ")" (by decide) |>.trans hclosing
      simp [readCast, hmark, hopening, hclosed, hkind, hname]

theorem readRegister_ok_iff {tokens rest : List Token} {name : Register} :
    readRegister tokens = .ok (name, rest) ↔
      ∃ tok, tokens = tok :: rest ∧ tok.isRegister = true ∧ tok.text = name := by
  cases tokens with
  | nil => simp [readRegister, failWith]
  | cons tok more =>
      cases hregister : tok.isRegister <;>
        simp [readRegister, hregister, failWith, and_assoc, and_comm]

theorem readName_ok_iff {tokens rest : List Token} {name : String} :
    readName tokens = .ok (name, rest) ↔
      ∃ tok, tokens = tok :: rest ∧ tok.isName = true ∧ tok.text = name := by
  cases tokens with
  | nil => simp [readName, failWith]
  | cons tok more =>
      cases hname : tok.isName <;> simp [readName, hname, failWith, and_assoc, and_comm]

theorem readEquals_ok_iff {tokens rest : List Token} {name : String}
    (hlexemes : AllLexemes tokens) :
    readEquals name tokens = .ok rest ↔
      ∃ equals, tokens = equals :: rest ∧ equals.isOp "=" = true := by
  cases tokens with
  | nil => simp [readEquals, failWith]
  | cons tok more =>
      have hmark := Token.is_eq_isOp (hlexemes tok (by simp)) "=" (by decide)
      cases hequals : tok.isOp "=" <;> simp [readEquals, hmark, hequals, failWith, and_assoc]

end Shorthand
