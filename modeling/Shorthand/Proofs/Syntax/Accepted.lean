import Shorthand.Proofs.Syntax.Separated

/-!
# Which assignments and declarations are accepted

A line that starts with a register, or with the keyword of a variable, is accepted exactly if its
tokens have one of the documented forms, and it is read as the statement that this form denotes
(`dispatch_ok_iff_denotes`).

## Strategy

A reader of statements asks for its parts in turn, and what a part takes off the front of the tokens
is known (`reads_immediate`, `reads_operand`, `reads_size`, `readsOptional_index`,
`readsOptional_cast`).  In one direction, the cases of the reader are taken apart, and each of them
that succeeds puts the tokens together in one of the forms.  In the other direction, each form is
read: the first tokens lead the reader to its case, since no immediate value starts with a register
or with the mark of an address (`exists_of_isImmediate`), and after the last part no token is left
over.

Initial values are the only list.  Its tokens are split at commas, and no immediate value holds one
(`isOp_of_mem_isImmediate`), so the parts are the values (`mapM_splitAtOp_ok_iff`).
-/

namespace Shorthand

open Machine Text

/-! ## Readers of assignments -/

theorem ofSymbol?_eq_some_iff {text : String} {op : Operator} :
    Operator.ofSymbol? text = some op ↔ text = op.symbol := by
  constructor
  · intro h
    have hsymbol := List.find?_some h
    exact (beq_iff_eq.mp hsymbol).symm
  · rintro rfl
    cases op <;> rfl

theorem isAddressMark_eq {tok : Token} (h : tok.IsLexeme) :
    (tok.is "&" || tok.is "*") = tok.isAddressMark := by
  rw [Token.is_eq_isOp h "&" (by decide), Token.is_eq_isOp h "*" (by decide), Token.isAddressMark]

theorem isRegister_of_isAddressMark {tok : Token} (h : tok.isAddressMark = true) :
    tok.isRegister = false := by
  have hkind : tok.kind = .op := by
    simp only [Token.isAddressMark, Token.isOp, Bool.or_eq_true, Bool.and_eq_true, beq_iff_eq] at h
    rcases h with h | h <;> exact h.1
  simp [Token.isRegister, hkind]

theorem isOp_of_isAddressMark {tok : Token} (h : tok.isAddressMark = true) :
    tok.isOp "(" = false := by
  simp only [Token.isAddressMark, Token.isOp, Bool.or_eq_true, Bool.and_eq_true, beq_iff_eq] at h
  rcases h with h | h <;> simp [Token.isOp, h]

variable {dst : Register} {tokens : List Token} {statement : Statement}

theorem isAssigned_of_readOperation {src : Token} (hsrc : src.isRegister = true)
    (hlexemes : AllLexemes tokens)
    (h : readOperation dst src.text tokens = .ok (statement, [])) :
    IsAssigned dst (src :: tokens) statement := by
  cases tokens with
  | nil =>
      cases h
      exact .move hsrc
  | cons mark rest =>
      unfold readOperation at h
      dsimp only at h
      split at h
      · rename_i hkind
        split at h
        · rename_i op hop
          obtain ⟨⟨rhs, left⟩, hrhs, heq⟩ := bind_eq_ok_iff.mp h
          cases heq
          obtain ⟨front, hfront, rfl⟩ :=
            (reads_operand _ _ _ (allLexemes_cons.mp hlexemes).2).mp hrhs
          rw [List.append_nil]
          refine .operate hsrc ?_ hfront
          simp [Token.isOp, beq_iff_eq.mp hkind, ofSymbol?_eq_some_iff.mp hop]
        · cases h
      · cases h

theorem isAssigned_of_readAddressed {castTokens value : List Token} {cast? : Option Cast}
    {mark : Token} (hcast : IsCast? castTokens cast?) (hmark : mark.isAddressMark = true)
    (hlexemes : AllLexemes tokens)
    (h : readAddressed dst cast? value tokens = .ok (statement, [])) :
    IsAssigned dst (castTokens ++ mark :: tokens) statement := by
  cases tokens with
  | nil => cases h
  | cons tok rest =>
      unfold readAddressed at h
      dsimp only at h
      split at h
      · rename_i hbase
        obtain ⟨⟨offset, left⟩, hoffset, heq⟩ := bind_eq_ok_iff.mp h
        cases heq
        obtain ⟨front, hfront, rfl, -⟩ :=
          (readsOptional_index _ _ _ (allLexemes_cons.mp hlexemes).2).mp hoffset
        rw [List.append_nil]
        exact .load hcast hmark hbase hfront
      split at h
      · cases h
      · rename_i hnone
        split at h
        · rename_i hname
          cases h
          rcases hcast with _ | ⟨hopening, hkind, hcast, hclosing⟩
          · exact .address hmark hname
          · exact absurd rfl hnone
        · cases h

theorem isAssigned_of_readAssigned (hlexemes : AllLexemes tokens)
    (h : readAssigned dst tokens = .ok (statement, [])) : IsAssigned dst tokens statement := by
  cases tokens with
  | nil => cases h
  | cons first rest =>
      unfold readAssigned at h
      dsimp only at h
      split at h
      · rename_i hsrc
        exact isAssigned_of_readOperation hsrc (allLexemes_cons.mp hlexemes).2 h
      obtain ⟨⟨cast?, left⟩, hread, h⟩ := bind_eq_ok_iff.mp h
      obtain ⟨castTokens, hcast, hsplit, -⟩ := (readsOptional_cast _ _ _ hlexemes).mp hread
      rw [hsplit] at hlexemes h ⊢
      obtain ⟨-, hleft⟩ := allLexemes_append.mp hlexemes
      cases left with
      | nil => cases h
      | cons tok more =>
          obtain ⟨htok, hmore⟩ := allLexemes_cons.mp hleft
          dsimp only at h
          rw [isAddressMark_eq htok] at h
          split at h
          · rename_i hmark
            exact isAssigned_of_readAddressed hcast hmark hmore h
          cases cast? with
          | some cast =>
              dsimp only at h
              split at h
              · rename_i hname
                cases h
                exact .loadName hcast hname
              · cases h
          | none =>
              obtain ⟨⟨value, rest⟩, hvalue, hstatement⟩ := bind_eq_ok_iff.mp h
              obtain ⟨front, hfront, hfrontrest⟩ := (reads_immediate _ _ _ hleft).mp hvalue
              obtain rfl : castTokens = [] := by
                rcases hcast with _ | ⟨⟨⟩⟩
                rfl
              rw [List.nil_append, hfrontrest]
              dsimp only at hstatement
              split at hstatement
              · rename_i name
                cases hstatement
                cases hfront with
                | name hname => exact .loadName .missing hname
              · rename_i hne
                cases hstatement
                rw [List.append_nil]
                exact .loadImmediate hfront hne

/-- The first token after a cast, or without one, is reached by the reader. -/
theorem exists_readCast {castTokens rest : List Token} {cast? : Option Cast} {tok : Token}
    (hcast : IsCast? castTokens cast?) (hlexemes : AllLexemes (castTokens ++ tok :: rest))
    (hregister : tok.isRegister = false) (hmark : tok.isOp "(" = false) :
    ∃ first more, castTokens ++ tok :: rest = first :: more ∧ first.isRegister = false ∧
      readCast (first :: more) = .ok (cast?, tok :: rest) := by
  have hread : readCast (castTokens ++ tok :: rest) = .ok (cast?, tok :: rest) := by
    refine (readsOptional_cast _ _ _ hlexemes).mpr
      ⟨castTokens, hcast, rfl, fun _ other hother => ?_⟩
    obtain rfl : tok = other := Option.some.inj hother
    exact hmark
  cases hcast with
  | missing => exact ⟨tok, rest, rfl, hregister, hread⟩
  | present hcast =>
      obtain @⟨opening, name, closing, cast, hopening, -, -, -⟩ := hcast
      refine ⟨opening, _, rfl, ?_, hread⟩
      rw [Token.isOp_iff] at hopening
      simp [Token.isRegister, hopening]

theorem readAssigned_mark {castTokens rest : List Token} {cast? : Option Cast} {mark : Token}
    (hcast : IsCast? castTokens cast?) (hlexemes : AllLexemes (castTokens ++ mark :: rest))
    (hmark : mark.isAddressMark = true) :
    readAssigned dst (castTokens ++ mark :: rest) =
      readAddressed dst cast? (castTokens ++ mark :: rest) rest := by
  have hlexeme : mark.IsLexeme := hlexemes mark (by simp)
  obtain ⟨first, more, heq, hfirst, hread⟩ := exists_readCast hcast hlexemes
    (isRegister_of_isAddressMark hmark) (isOp_of_isAddressMark hmark)
  rw [heq]
  simp [readAssigned, hfirst, hread, isAddressMark_eq hlexeme, hmark, bind, Except.bind]

/-- An immediate value on the right of an assignment is read as one, or as the name that it is. -/
theorem readAssigned_isImmediate {value : Immediate} (hlexemes : AllLexemes tokens)
    (h : IsImmediate tokens value) :
    readAssigned dst tokens =
      match value with
      | .name name => .ok (.loadName dst name none, [])
      | _ => .ok (.loadImmediate dst value, []) := by
  have hvalue := (reads_immediate tokens value [] hlexemes).mpr ⟨tokens, h, by simp⟩
  obtain ⟨tok, more, rfl, hregister, hmark⟩ := exists_of_isImmediate h
  have hlexeme : tok.IsLexeme := hlexemes tok (by simp)
  have hmissing : IsCast? [] none := .missing
  obtain ⟨first, rest, heq, hfirst, hread⟩ := exists_readCast hmissing hlexemes
    hregister (hmark "(" (by decide))
  cases heq
  have haddress : tok.isAddressMark = false := by
    simp [Token.isAddressMark, hmark "&" (by decide), hmark "*" (by decide)]
  cases value <;> simp [readAssigned, hfirst, hread, isAddressMark_eq hlexeme, haddress, hvalue,
    bind, Except.bind, pure, Except.pure]

theorem readAssigned_of_isAssigned (hlexemes : AllLexemes tokens)
    (h : IsAssigned dst tokens statement) : readAssigned dst tokens = .ok (statement, []) := by
  cases h with
  | move hsrc => simp [readAssigned, hsrc, readOperation]
  | @operate src mark tokens op rhs hsrc hmark hrhs =>
      have hread := (reads_operand tokens rhs [] fun tok htok => hlexemes tok (by simp [htok])).mpr
        ⟨tokens, hrhs, (List.append_nil _).symm⟩
      rw [Token.isOp_iff] at hmark
      simp [readAssigned, hsrc, readOperation, hmark, ofSymbol?_eq_some_iff.mpr rfl, hread, bind,
        Except.bind, pure, Except.pure]
  | @address mark name hmark hname =>
      have hmissing : IsCast? [] none := .missing
      refine (readAssigned_mark hmissing hlexemes hmark).trans ?_
      simp [readAddressed, Token.isRegister_of_isName hname, hname]
  | @load castTokens indexTokens cast? mark base offset hcast hmark hbase hoffset =>
      have hread := (readsOptional_index indexTokens offset [] fun tok htok =>
        hlexemes tok (by simp [htok])).mpr
          ⟨_, hoffset, (List.append_nil _).symm, fun _ => lacksMark_nil _⟩
      rw [readAssigned_mark hcast hlexemes hmark]
      simp [readAddressed, hbase, hread, bind, Except.bind, pure, Except.pure]
  | @loadName castTokens cast? name hcast hname =>
      cases hcast with
      | missing => exact readAssigned_isImmediate hlexemes (.name hname)
      | present hcast =>
          have hlexeme : name.IsLexeme := hlexemes name (by simp)
          have hkind := Token.kind_of_isName hname
          have hmark : ∀ symbol, name.isOp symbol = false := by simp [Token.isOp, hkind]
          obtain ⟨first, more, heq, hfirst, hread⟩ := exists_readCast (.present hcast) hlexemes
            (Token.isRegister_of_isName hname) (hmark "(")
          obtain ⟨-, -, -, -⟩ := hcast
          rw [heq]
          simp [readAssigned, hfirst, hread, isAddressMark_eq hlexeme, Token.isAddressMark, hmark,
            hname, bind, Except.bind, pure, Except.pure]
  | @loadImmediate tokens value hvalue hne =>
      rw [readAssigned_isImmediate hlexemes hvalue]
      cases value with
      | name name => exact absurd rfl (hne name)
      | _ => rfl

theorem readAssigned_ok_iff (hlexemes : AllLexemes tokens) :
    readAssigned dst tokens = .ok (statement, []) ↔ IsAssigned dst tokens statement :=
  ⟨isAssigned_of_readAssigned hlexemes, readAssigned_of_isAssigned hlexemes⟩

theorem compoundOperator?_eq_some_iff {text : String} {op : Operator} :
    compoundOperator? text = some op ↔ text = op.symbol ++ "=" := by
  constructor
  · intro h
    unfold compoundOperator? at h
    split at h
    · rename_i symbol hreverse
      have hsymbol := ofSymbol?_eq_some_iff.mp h
      have hlist : text.toList = symbol.reverse ++ ['='] := by
        simpa using congrArg List.reverse hreverse
      rw [← hsymbol]
      apply String.toList_inj.mp
      simpa using hlist
    · cases h
  · rintro rfl
    cases op <;> decide

/-- The operator of a compound assignment is none of the marks that are looked for before it. -/
theorem readUpdate_compound {first : Token} {op : Operator}
    (hfirst : first.isOp (op.symbol ++ "=") = true) (rest : List Token) :
    readUpdate dst first rest = do
      let (rhs, rest) ← readOperand rest
      return (.operate dst dst op rhs, rest) := by
  obtain ⟨hkind, htext⟩ : first.kind = .op ∧ first.text = op.symbol ++ "=" := by
    simpa [Token.isOp] using hfirst
  have hmarks : ∀ symbol ∈ ["=", "++", "--"], first.is symbol = false := by
    intro symbol hsymbol
    have hne : op.symbol ++ "=" ≠ symbol := by
      revert symbol
      cases op <;> decide
    simp [Token.is, hkind, htext, hne]
  have hcompound : isCompound first = true := by
    rw [isCompound, hkind, htext]
    cases op <;> decide
  rw [readUpdate, hmarks "=" (by decide), hmarks "++" (by decide), hmarks "--" (by decide),
    hcompound, compoundOperator?_eq_some_iff.mpr htext]
  rfl

theorem readRegisterStatement_ok_iff {dst : Token} (hdst : dst.isRegister = true)
    (hlexemes : AllLexemes tokens) :
    readRegisterStatement dst.text tokens = .ok statement ↔ IsUpdate (dst :: tokens) statement := by
  cases tokens with
  | nil =>
      constructor
      · intro h
        cases h
      · intro h
        cases h
  | cons first rest =>
      obtain ⟨hlexeme, hrest⟩ := allLexemes_cons.mp hlexemes
      have hmark := Token.is_eq_isOp hlexeme
      have hwhole : readRegisterStatement dst.text (first :: rest) = .ok statement ↔
          readUpdate dst.text first rest = .ok (statement, []) :=
        (whole_ok_iff (f := id)).trans (by simp)
      rw [hwhole]
      constructor
      · intro h
        unfold readUpdate at h
        split at h
        · rename_i hequals
          rw [hmark _ (by decide)] at hequals
          exact .assigned hdst hequals ((readAssigned_ok_iff hrest).mp h)
        split at h
        · rename_i hplus
          rw [hmark _ (by decide)] at hplus
          cases h
          exact .incremented hdst hplus
        split at h
        · rename_i hminus
          rw [hmark _ (by decide)] at hminus
          cases h
          exact .decremented hdst hminus
        split at h
        · rename_i hcompound
          split at h
          · rename_i op hop
            obtain ⟨⟨rhs, left⟩, hrhs, heq⟩ := bind_eq_ok_iff.mp h
            cases heq
            obtain ⟨front, hfront, rfl⟩ := (reads_operand _ _ _ hrest).mp hrhs
            rw [List.append_nil]
            refine .updated hdst ?_ hfront
            simp only [isCompound, Bool.and_eq_true] at hcompound
            simp [Token.isOp, hcompound, compoundOperator?_eq_some_iff.mp hop]
          · cases h
        · cases h
      · intro h
        cases h with
        | assigned _ hequals h =>
            rw [← hmark _ (by decide)] at hequals
            rw [readUpdate, if_pos hequals]
            exact (readAssigned_ok_iff hrest).mpr h
        | updated _ hfirst hrhs =>
            have hread := (reads_operand _ _ _ hrest).mpr ⟨_, hrhs, (List.append_nil _).symm⟩
            rw [readUpdate_compound hfirst, hread]
            rfl
        | incremented _ hfirst | decremented _ hfirst =>
            rw [Token.isOp_iff] at hfirst
            simp [readUpdate, Token.is, hfirst, stepStatement]

/-! ## Readers of declarations -/

variable {width : Width} {declaration : Declaration} {keyword : Token}

theorem readInitial_ok_iff {value : Immediate} (hlexemes : AllLexemes tokens) :
    readInitial tokens = .ok value ↔ IsImmediate tokens value := by
  refine (whole_ok_iff (f := id)).trans ?_
  simp [reads_immediate _ _ _ hlexemes]

/-- No token of an immediate value is a comma. -/
theorem isOp_of_mem_isImmediate {value : Immediate} (h : IsImmediate tokens value) :
    ∀ tok ∈ tokens, tok.isOp "," = false := by
  rcases h.single_or_negated with ⟨tok, rfl⟩ | ⟨minus, tok, rfl, hminus, hkind, -⟩
  · intro other hother
    rw [List.mem_singleton.mp hother]
    exact isOp_of_isImmediate h _
  · rw [Token.isOp_iff] at hminus
    simp [Token.isOp, hminus, hkind]

/-- Initial values are immediate values with commas between them. -/
theorem isInitial_iff_separated {init : List Immediate} :
    IsInitial tokens init ↔ Separated IsImmediate "," tokens init := by
  constructor
  · intro h
    induction h with
    | last h => exact .last h
    | cons h hcomma _ ih => exact .cons h hcomma ih
  · intro h
    induction h with
    | last h => exact .last h
    | cons h hcomma _ ih => exact .cons h hcomma ih

theorem readInitials_ok_iff {init : List Immediate} (hlexemes : AllLexemes tokens) :
    (splitAtOp "," tokens).mapM readInitial = .ok init ↔ IsInitial tokens init := by
  rw [isInitial_iff_separated]
  refine mapM_splitAtOp_ok_iff (fun _ _ => isOp_of_mem_isImmediate) fun part value hsub => ?_
  exact readInitial_ok_iff fun tok htok => hlexemes tok (hsub htok)

/-- A size in brackets and the name after it are all there is. -/
theorem readSizedName_ok_iff {f : Immediate → String → Declaration}
    (hlexemes : AllLexemes tokens) :
    (do
        let (size, rest) ← readSize tokens
        let (name, rest) ← readName rest
        noMore rest
        return f size name) = .ok declaration ↔
      ∃ front size name, tokens = front ++ [name] ∧ IsBracketed front size ∧ name.isName = true ∧
        f size name.text = declaration := by
  rw [bind_eq_ok_iff]
  constructor
  · rintro ⟨⟨size, rest⟩, hsize, h⟩
    obtain ⟨front, hfront, rfl⟩ := (reads_size _ _ _ hlexemes).mp hsize
    obtain ⟨text, hread, rfl⟩ := whole_ok_iff.mp h
    obtain ⟨name, rfl, hname, rfl⟩ := readName_ok_iff.mp hread
    exact ⟨front, size, name, rfl, hfront, hname, rfl⟩
  · rintro ⟨front, size, name, rfl, hfront, hname, rfl⟩
    exact ⟨(size, [name]), (reads_size _ _ _ hlexemes).mpr ⟨front, hfront, rfl⟩,
      whole_ok_iff.mpr ⟨name.text, readName_ok_iff.mpr ⟨name, rfl, hname, rfl⟩, rfl⟩⟩

theorem isDeclared_of_readSized (hkeyword : keyword.isWord width.keyword = true)
    (hlexemes : AllLexemes tokens) (h : readSized width tokens = .ok declaration) :
    IsDeclared (keyword :: tokens) declaration := by
  unfold readSized at h
  split at h
  · obtain ⟨front, size, name, rfl, hfront, hname, rfl⟩ := (readSizedName_ok_iff
      (f := fun size name => .array width name size) hlexemes).mp h
    exact .array hkeyword hfront hname
  · obtain ⟨⟨text, rest⟩, hread, h⟩ := bind_eq_ok_iff.mp h
    obtain ⟨name, rfl, hname, rfl⟩ := readName_ok_iff.mp hread
    obtain ⟨-, hrest⟩ := allLexemes_cons.mp hlexemes
    cases rest with
    | nil =>
        cases h
        exact .scalar hkeyword hname
    | cons equals values =>
        obtain ⟨hlexeme, hvalues⟩ := allLexemes_cons.mp hrest
        dsimp only at h
        split at h
        · rename_i hequals
          rw [Token.is_eq_isOp hlexeme _ (by decide)] at hequals
          obtain ⟨init, hinit, heq⟩ := bind_eq_ok_iff.mp h
          cases heq
          exact .initialized hkeyword hname hequals ((readInitials_ok_iff hvalues).mp hinit)
        · cases h

theorem isDeclared_of_readString (hkeyword : keyword.isWord "string" = true)
    (hlexemes : AllLexemes tokens) (h : readString tokens = .ok declaration) :
    IsDeclared (keyword :: tokens) declaration := by
  obtain ⟨⟨text, rest⟩, hread, hassigned⟩ := bind_eq_ok_iff.mp h
  obtain ⟨name, rfl, hname, rfl⟩ := readName_ok_iff.mp hread
  obtain ⟨value, hread, hvalue⟩ := bind_eq_ok_iff.mp hassigned
  obtain ⟨equals, rfl, hequals⟩ := (readEquals_ok_iff (allLexemes_cons.mp hlexemes).2).mp hread
  cases value with
  | nil => cases hvalue
  | cons literal more =>
      dsimp only at hvalue
      split at hvalue
      · rename_i hliteral
        obtain ⟨_, hmore, heq⟩ := bind_eq_ok_iff.mp hvalue
        obtain rfl := noMore_ok_iff.mp hmore
        cases heq
        exact .string hkeyword hname hequals (by simpa using hliteral)
      · cases hvalue

/-- The keywords of variables. -/
def variableWords : List String := ["int", "byte", "string", "var"]

theorem isDeclared_of_readDeclaration (hkind : keyword.kind = .ident)
    (hword : keyword.text ∈ variableWords) (hlexemes : AllLexemes tokens)
    (h : readDeclaration keyword.text tokens = .ok declaration) :
    IsDeclared (keyword :: tokens) declaration := by
  have hkeyword : ∀ word, keyword.text = word → keyword.isWord word = true := by
    rintro _ rfl
    simp [Token.isWord, hkind]
  simp only [variableWords, List.mem_cons, List.not_mem_nil, or_false] at hword
  rcases hword with htext | htext | htext | htext <;> rw [htext] at h
  · exact isDeclared_of_readSized (hkeyword Width.word.keyword htext) hlexemes h
  · exact isDeclared_of_readSized (hkeyword Width.byte.keyword htext) hlexemes h
  · exact isDeclared_of_readString (hkeyword _ htext) hlexemes h
  · obtain ⟨front, size, name, rfl, hfront, hname, rfl⟩ := (readSizedName_ok_iff
      (f := fun size name => .buffer name size) hlexemes).mp h
    exact .buffer (hkeyword _ htext) hfront hname

theorem isOp_of_isName {tok : Token} (h : tok.isName = true) (symbol : String) :
    tok.isOp symbol = false := by
  simp [Token.isOp, Token.kind_of_isName h]

theorem readSized_of_isBracketed {front : List Token} {size : Immediate} {name : Token}
    (hlexemes : AllLexemes (front ++ [name])) (hsize : IsBracketed front size)
    (hname : name.isName = true) :
    readSized width (front ++ [name]) = .ok (.array width name.text size) := by
  have hread := (readSizedName_ok_iff (f := fun size name => .array width name size)
    hlexemes).mpr ⟨front, size, name, rfl, hsize, hname, rfl⟩
  obtain @⟨opening, closing, tokens, size, hopening, -, -⟩ := hsize
  rw [← Token.is_eq_isOp (hlexemes opening (by simp)) _ (by decide)] at hopening
  rw [readSized, if_pos (by simpa using hopening)]
  exact hread

/-- A name is read after the keyword if there is no size. -/
theorem readSized_of_isName {name : Token} (hname : name.isName = true)
    (hlexemes : AllLexemes (name :: tokens)) :
    readSized width (name :: tokens) =
      match tokens with
      | [] => .ok (.scalar width name.text [])
      | tok :: values =>
          if tok.is "=" then do
            let init ← (splitAtOp "," values).mapM readInitial
            return .scalar width name.text init
          else failWith .trailing [joinTokens tokens] := by
  have hopening : name.is "[" = false :=
    (Token.is_eq_isOp (hlexemes name (by simp)) _ (by decide)).trans (isOp_of_isName hname _)
  cases tokens <;>
    simp [readSized, hopening, readName, hname, bind, Except.bind, pure, Except.pure]

theorem readDeclaration_of_isDeclared (hlexemes : AllLexemes (keyword :: tokens))
    (h : IsDeclared (keyword :: tokens) declaration) :
    readDeclaration keyword.text tokens = .ok declaration := by
  have hsized : ∀ width : Width, keyword.isWord width.keyword = true →
      readDeclaration keyword.text tokens = readSized width tokens := by
    intro width hword
    rw [Token.isWord_iff] at hword
    rw [hword.2]
    cases width <;> rfl
  obtain ⟨-, hbody⟩ := allLexemes_cons.mp hlexemes
  cases h with
  | scalar hkeyword hname =>
      rw [hsized _ hkeyword, readSized_of_isName hname hbody]
  | initialized hkeyword hname hequals hinit =>
      obtain ⟨-, hrest⟩ := allLexemes_cons.mp hbody
      obtain ⟨hlexeme, hvalues⟩ := allLexemes_cons.mp hrest
      rw [← Token.is_eq_isOp hlexeme _ (by decide)] at hequals
      rw [hsized _ hkeyword, readSized_of_isName hname hbody]
      simp [hequals, (readInitials_ok_iff hvalues).mpr hinit, bind, Except.bind, pure, Except.pure]
  | array hkeyword hsize hname =>
      rw [hsized _ hkeyword, readSized_of_isBracketed hbody hsize hname]
  | @string _ name equals literal hkeyword hname hequals hliteral =>
      rw [Token.isWord_iff] at hkeyword
      rw [← Token.is_eq_isOp (hlexemes equals (by simp)) _ (by decide)] at hequals
      rw [hkeyword.2]
      simp [readDeclaration, readString, readName, hname, readEquals, hequals, hliteral, noMore,
        bind, Except.bind, pure, Except.pure]
  | @buffer _ name front size hkeyword hsize hname =>
      rw [Token.isWord_iff] at hkeyword
      rw [hkeyword.2]
      exact (readSizedName_ok_iff (f := fun size name => .buffer name size) hbody).mpr
        ⟨front, size, name, rfl, hsize, hname, rfl⟩

theorem readDeclaration_ok_iff (hkind : keyword.kind = .ident)
    (hword : keyword.text ∈ variableWords) (hlexemes : AllLexemes (keyword :: tokens)) :
    readDeclaration keyword.text tokens = .ok declaration ↔
      IsDeclared (keyword :: tokens) declaration :=
  ⟨isDeclared_of_readDeclaration hkind hword (allLexemes_cons.mp hlexemes).2,
    readDeclaration_of_isDeclared hlexemes⟩

/-! ## Lines -/

theorem isRegister_of_mem_variableWords {word : String} (h : word ∈ variableWords) :
    Machine.isRegister word = false := by
  have hall : ∀ word ∈ variableWords, Machine.isRegister word = false := by decide
  exact hall word h

/-- A declaration starts with the keyword of a variable. -/
theorem mem_variableWords_of_isDeclared {first : Token}
    (h : IsDeclared (first :: tokens) declaration) : first.text ∈ variableWords := by
  have hword : ∃ word ∈ variableWords, first.isWord word = true := by
    cases h with
    | @scalar _ _ width hkeyword | @initialized _ _ _ _ width _ hkeyword
    | @array _ _ _ width _ hkeyword =>
        exact ⟨width.keyword, by cases width <;> decide, hkeyword⟩
    | string hkeyword | buffer hkeyword => exact ⟨_, by decide, hkeyword⟩
  obtain ⟨word, hmem, hword⟩ := hword
  rw [Token.isWord_iff] at hword
  exact hword.2 ▸ hmem

theorem denotes_iff_isUpdate {first : Token} (hregister : first.isRegister = true) :
    Denotes (first :: tokens) statement ↔ IsUpdate (first :: tokens) statement := by
  refine ⟨?_, .update⟩
  rintro (h | h)
  · exact h
  · simp [Token.isRegister, isRegister_of_mem_variableWords (mem_variableWords_of_isDeclared h)]
      at hregister

theorem denotes_iff_isDeclared {first : Token} (hword : first.text ∈ variableWords) :
    Denotes (first :: tokens) statement ↔
      ∃ declaration, IsDeclared (first :: tokens) declaration ∧
        Statement.declare declaration = statement := by
  constructor
  · rintro (h | h)
    · have hregister : first.isRegister = true := by
        cases h <;> assumption
      simp [Token.isRegister, isRegister_of_mem_variableWords hword] at hregister
    · exact ⟨_, h, rfl⟩
  · rintro ⟨declaration, h, rfl⟩
    exact .declared h

/-- A line without a mark that ends a statement holds one statement at most, if its first token
starts one. -/
theorem dispatch_ok_iff {handler : Handler} {first : Token} {statements : List Statement}
    (hstarts : Handler.all.find? (Handler.starts ⟨[], first⟩) = some handler)
    (hsegment : handler.segment tokens = ⟨tokens, [], none⟩) :
    dispatch Handler.all (first :: tokens) = .ok statements ↔ ∃ statement,
      statements = [statement] ∧ handler.read ⟨[], first⟩ ⟨tokens, [], none⟩ = .ok statement := by
  rw [dispatch, dispatchOnto]
  simp only [hstarts, hsegment]
  cases handler.read ⟨[], first⟩ ⟨tokens, [], none⟩ with
  | error problem => simp
  | ok statement => simp [dispatchOnto, eq_comm]

/-- **Assignments to registers and declarations of variables are accepted exactly by their
grammar.**  Take the tokens of a line that starts with a register or with the keyword of a variable,
and has neither a comment nor a semicolon.  They are accepted exactly if they have one of the
documented forms, and then they are read as one statement, which is the one that the form
denotes. -/
theorem dispatch_ok_iff_denotes {line : String} {first : Token} {statements : List Statement}
    (hlex : (lex line).tokens = first :: tokens)
    (hfirst : first.isRegister = true ∨ first.kind = .ident ∧ first.text ∈ variableWords)
    (hplain : ∀ tok ∈ first :: tokens, tok.kind ≠ .comment ∧ tok.isOp ";" = false) :
    dispatch Handler.all (first :: tokens) = .ok statements ↔
      ∃ statement, statements = [statement] ∧ Denotes (first :: tokens) statement := by
  have hlexemes : AllLexemes (first :: tokens) := hlex ▸ allLexemes_lex line
  have hsegment : Segment.upTo [";"] tokens = ⟨tokens, [], none⟩ := by
    have hinside : ∀ tok ∈ tokens, endsStatement [";"] tok = false := by
      intro tok htok
      obtain ⟨hkind, hend⟩ := hplain tok (List.mem_cons_of_mem _ htok)
      simpa [endsStatement, hkind, Token.isOp] using hend
    simpa [Segment.upTo] using Segment.upTo_append hinside []
  rcases hfirst with hregister | ⟨hkind, hword⟩
  · have hstarts : Handler.all.find? (Handler.starts ⟨[], first⟩) = some .register := by
      simp only [Token.isRegister, Bool.and_eq_true, beq_iff_eq] at hregister
      obtain ⟨kind, text, col⟩ := first
      obtain rfl : kind = .ident := hregister.1
      exact find?_starts_register hregister.2 col
    simp only [dispatch_ok_iff hstarts hsegment, denotes_iff_isUpdate hregister]
    refine exists_congr fun statement => and_congr_right fun _ => ?_
    exact readRegisterStatement_ok_iff hregister (allLexemes_cons.mp hlexemes).2
  · have hstarts : Handler.all.find? (Handler.starts ⟨[], first⟩) = some .declaration := by
      obtain ⟨kind, text, col⟩ := first
      obtain rfl : kind = .ident := hkind
      have hall : ∀ word ∈ variableWords, word ∈ declarationWords := by decide
      exact find?_starts_declaration (hall _ hword) col
    simp only [dispatch_ok_iff hstarts hsegment, denotes_iff_isDeclared hword]
    refine exists_congr fun statement => and_congr_right fun _ => ?_
    have hread : Handler.read ⟨[], first⟩ ⟨tokens, [], none⟩ .declaration =
        Statement.declare <$> readDeclaration first.text tokens := by
      cases hread : readDeclaration first.text tokens <;> simp [Handler.read, hread]
    rw [hread, map_eq_ok_iff]
    simp only [readDeclaration_ok_iff hkind hword hlexemes]

/-- The tokens of `r1 = (io) &r2[-4]`. -/
def deviceTokens : List Token :=
  [⟨.ident, "r1", 1⟩, ⟨.op, "=", 4⟩, ⟨.op, "(", 6⟩, ⟨.ident, "io", 7⟩, ⟨.op, ")", 9⟩,
    ⟨.op, "&", 11⟩, ⟨.ident, "r2", 12⟩, ⟨.op, "[", 14⟩, ⟨.op, "-", 15⟩, ⟨.number, "4", 16⟩,
    ⟨.op, "]", 17⟩]

/-- The tokens of `int x = 1 2`. -/
def uncommaedTokens : List Token :=
  [⟨.ident, "int", 1⟩, ⟨.ident, "x", 5⟩, ⟨.op, "=", 7⟩, ⟨.number, "1", 9⟩, ⟨.number, "2", 11⟩]

/-- A load with a cast and a negative offset is read as one.  Two initial values without a comma
between them denote nothing. -/
theorem deviceTokens_denotes :
    dispatch Handler.all deviceTokens = .ok [.load "r1" ⟨false, true⟩ "r2" (.number "-4")] ∧
      ∀ statement, ¬ Denotes uncommaedTokens statement := by
  constructor
  · have hlex : (lex "r1 = (io) &r2[-4]").tokens = deviceTokens := by decide +kernel
    have hcast : IsCast? [⟨.op, "(", 6⟩, ⟨.ident, "io", 7⟩, ⟨.op, ")", 9⟩] (some ⟨false, true⟩) :=
      .present (.parentheses (by decide) rfl (by decide) (by decide))
    have hoffset : IsOffset [⟨.op, "[", 14⟩, ⟨.op, "-", 15⟩, ⟨.number, "4", 16⟩, ⟨.op, "]", 17⟩]
        (.number "-4") :=
      .present (.brackets (by decide) (.negated (by decide) rfl (by decide +kernel)) (by decide))
    exact (dispatch_ok_iff_denotes hlex (.inl (by decide)) (by decide)).mpr ⟨_, rfl,
      .update (.assigned (by decide) (by decide) (.load hcast (by decide) (by decide) hoffset))⟩
  · intro statement hdenotes
    have hlex : (lex "int x = 1 2").tokens = uncommaedTokens := by decide +kernel
    have hok := (dispatch_ok_iff_denotes hlex (.inr ⟨rfl, by decide⟩) (by decide)).mpr
      ⟨statement, rfl, hdenotes⟩
    have hrefused : (dispatch Handler.all uncommaedTokens).isOk = false := by decide +kernel
    rw [uncommaedTokens, hok] at hrefused
    cases hrefused

end Shorthand
