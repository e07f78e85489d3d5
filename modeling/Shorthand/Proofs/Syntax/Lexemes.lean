import Shorthand.Token.Lexer

/-!
# Lexemes on their own

A lexeme is cut off the front of a line by looking at what follows it, so the same characters
may be cut differently in different surroundings: `<` before `=` is part of `<=`.  White space
settles this.  A lexeme that was cut off somewhere is cut off again wherever white space or the
end of the line follows (`lexeme_before_blank`), because no name, number or operator goes on
with white space, and a literal ends by itself.

## Strategy

`Cuts` says once how a lexeme of each kind comes about, and what follows about lexemes is read
off its cases.  `Token.IsLexeme` says that lexing a token's own text gives the token back.  The
tokens of every line are such (`isLexeme_of_mem_lex`), and so are the operators of the table
(`isLexeme_mark`).  Lexing such tokens with single blanks between them gives the tokens back,
each with the column where it stands (`lex_joinTokens`); only a comment has to be the last one,
since it takes the rest of the line.
-/

namespace Shorthand

open Text

/-! ## Tokens by themselves -/

namespace Token

/-- A name, a keyword or a register, by its text. -/
def word (text : String) : Token := ⟨.ident, text, 0⟩

/-- An operator or a punctuation mark, by its text. -/
def mark (text : String) : Token := ⟨.op, text, 0⟩

@[simp] theorem kind_word (text : String) : (word text).kind = .ident := rfl

@[simp] theorem text_word (text : String) : (word text).text = text := rfl

@[simp] theorem kind_mark (text : String) : (mark text).kind = .op := rfl

@[simp] theorem text_mark (text : String) : (mark text).text = text := rfl

/-- Whether lexing the text of the token alone gives just the token. -/
def IsLexeme (tok : Token) : Prop := lex tok.print = ⟨[{ tok with col := 1 }], none⟩

end Token

/-! ## What ends a lexeme -/

/-- Whether the characters start with white space, or there are none. -/
def StartsBlank (chars : List Char) : Prop := ∀ c ∈ chars.head?, isSpace c = true

theorem startsBlank_nil : StartsBlank [] := by simp [StartsBlank]

theorem startsBlank_cons {c : Char} {chars : List Char} (hc : isSpace c = true) :
    StartsBlank (c :: chars) := by
  simpa [StartsBlank] using hc

/-- The code points of white space, one by one. -/
private def spacePoints : List Nat :=
  [9, 10, 11, 12, 13, 0x20, 0x85, 0xA0, 0x1680, 0x2000, 0x2001, 0x2002, 0x2003, 0x2004, 0x2005,
   0x2006, 0x2007, 0x2008, 0x2009, 0x200A, 0x2028, 0x2029, 0x202F, 0x205F, 0x3000]

private theorem mem_spacePoints {c : Char} (hc : isSpace c = true) : c.toNat ∈ spacePoints := by
  simp [isSpace, spaceRanges, Ranges.holds] at hc
  simp only [spacePoints, List.mem_cons, List.not_mem_nil, or_false]
  omega

theorem isIdentPart_of_isIdentStart {c : Char} (h : isIdentStart c = true) :
    isIdentPart c = true := by
  rw [isIdentPart, ← isIdentStart, h, Bool.true_or]

/-- White space ends every name and every number. -/
theorem isIdentPart_of_isSpace {c : Char} (hc : isSpace c = true) : isIdentPart c = false := by
  have hpoints : ∀ n ∈ spacePoints,
      n ≠ '_'.toNat ∧ letterRanges.holds n = false ∧ digitRanges.holds n = false := by
    decide +kernel
  obtain ⟨hbar, hletter, hdigit⟩ := hpoints _ (mem_spacePoints hc)
  have hne : c ≠ '_' := fun heq => hbar (by rw [heq])
  simp [isIdentPart, isLetter, isDigit, hne, hletter, hdigit]

/-- No operator holds white space. -/
theorem isSpace_of_mem_operators {op : String} (hop : op ∈ operators) :
    ∀ c ∈ op.toList, isSpace c = false := by
  have hall : (operators.all fun op => op.toList.all fun c => !isSpace c) = true := by
    decide +kernel
  intro c hc
  simpa using List.all_eq_true.mp (List.all_eq_true.mp hall op hop) c hc

/-- A prefix of the characters before something blank starts like the characters, if it starts
with no white space. -/
private theorem head?_before_blank {tail rest more : List Char} {c : Char} (hfront : tail <+: rest)
    (hmore : StartsBlank more) (hc : isSpace c = false) (hhead : (tail ++ more).head? = some c) :
    rest.head? = some c := by
  cases tail with
  | nil =>
      have hspace := hmore c (by simpa using hhead)
      simp [hc] at hspace
  | cons first tail =>
      obtain ⟨rest, rfl⟩ := hfront
      simpa using hhead

/-! ## Literals end by themselves -/

/-- A quoted literal is closed by the characters passed over, whatever follows them. -/
theorem closeQuote_stable {quote : Char} {taken chars closed after : List Char}
    (hquote : quote ≠ '\\') (h : closeQuote quote taken chars = some (closed, after)) :
    ∃ body, closed = taken.reverse ++ body ∧
      ∀ more, closeQuote quote taken (body ++ more) = some (closed, more) := by
  fun_induction closeQuote quote taken chars with
  | case1 => simp at h
  | case2 taken c rest ih =>
      obtain ⟨body, htaken, hbody⟩ := ih h
      refine ⟨'\\' :: c :: body, by simp [htaken], ?_⟩
      intro more
      simpa [closeQuote] using hbody more
  | case3 taken c rest _ hc =>
      obtain ⟨rfl, -⟩ := Prod.mk.inj (Option.some.inj h)
      obtain rfl : c = quote := by simpa using hc
      refine ⟨[c], by simp, ?_⟩
      intro more
      simp [closeQuote, hquote]
  | case4 taken c rest hescape hc ih =>
      obtain ⟨body, htaken, hbody⟩ := ih h
      -- a backslash with nothing after it would close nothing
      have hne : c ≠ '\\' := by
        rintro rfl
        cases rest with
        | nil => simp [closeQuote] at h
        | cons next rest => exact hescape next rest rfl rfl
      refine ⟨c :: body, by simp [htaken], ?_⟩
      intro more
      have hstep : closeQuote quote taken (c :: (body ++ more)) =
          closeQuote quote (c :: taken) (body ++ more) := by
        simp [closeQuote, hne, hc]
      simpa [hstep] using hbody more

/-- An expression is closed by the characters passed over, whatever follows them. -/
theorem closeParen_stable {depth : Nat} {taken chars closed after : List Char}
    (h : closeParen depth taken chars = some (closed, after)) :
    ∃ body, closed = taken.reverse ++ body ∧
      ∀ more, closeParen depth taken (body ++ more) = some (closed, more) := by
  fun_induction closeParen depth taken chars with
  | case1 => simp at h
  | case2 depth taken c rest hopen ih =>
      obtain ⟨body, htaken, hbody⟩ := ih h
      exact ⟨c :: body, by simp [htaken], fun more => by simpa [closeParen, hopen] using hbody more⟩
  | case3 taken c rest hopen hclose =>
      obtain ⟨rfl, -⟩ := Prod.mk.inj (Option.some.inj h)
      exact ⟨[c], by simp, fun more => by simp [closeParen, hopen, hclose]⟩
  | case4 taken c rest hopen hclose depth ih =>
      obtain ⟨body, htaken, hbody⟩ := ih h
      refine ⟨c :: body, by simp [htaken], fun more => ?_⟩
      simpa [closeParen, hopen, hclose] using hbody more
  | case5 depth taken c rest hopen hclose ih =>
      obtain ⟨body, htaken, hbody⟩ := ih h
      refine ⟨c :: body, by simp [htaken], fun more => ?_⟩
      simpa [closeParen, hopen, hclose] using hbody more

/-! ## Operators end at white space -/

theorem of_operatorAt?_eq_some {chars : List Char} {op : String} (h : operatorAt? chars = some op) :
    op ∈ operators ∧ op.toList <+: chars := by
  unfold operatorAt? at h
  have hfits := List.find?_some h
  exact ⟨List.mem_of_find?_eq_some h, List.isPrefixOf_iff_prefix.mp hfits⟩

/-- The longest operator is the longest one again when white space follows it: a longer one
would have to hold the white space. -/
theorem operatorAt?_before_blank {chars more : List Char} {op : String}
    (h : operatorAt? chars = some op) (hmore : StartsBlank more) :
    operatorAt? (op.toList ++ more) = some op := by
  unfold operatorAt? at h ⊢
  obtain ⟨hop, before, after, htable, hbefore⟩ := List.find?_eq_some_iff_append.mp h
  rw [List.isPrefixOf_iff_prefix] at hop
  refine List.find?_eq_some_iff_append.mpr ⟨by simp, before, after, htable, ?_⟩
  intro other hother
  have hfits := hbefore other hother
  simp only [Bool.not_eq_true', ← Bool.not_eq_true, List.isPrefixOf_iff_prefix] at hfits ⊢
  intro hlonger
  rcases Nat.le_total other.toList.length op.toList.length with hle | hle
  · have hfront := List.prefix_of_prefix_length_le hlonger (List.prefix_append _ more) hle
    exact hfits (hfront.trans hop)
  · obtain ⟨excess, hexcess⟩ :=
      List.prefix_of_prefix_length_le (List.prefix_append _ more) hlonger hle
    rw [← hexcess] at hlonger hfits
    cases excess with
    | nil => exact hfits (by simpa using hop)
    | cons c excess =>
        have hhead : c ∈ more.head? := by
          obtain ⟨more, rfl⟩ := (List.prefix_append_right_inj _).mp hlonger
          simp
        have hmem : other ∈ operators := by simp [htable, hother]
        have hblank := isSpace_of_mem_operators hmem c (by rw [← hexcess]; simp)
        simp [hmore c hhead] at hblank

/-! ## How a lexeme comes about -/

/-- What `lexeme` cuts off, one case for each kind.  The characters of the cases differ, except
that `/` may start an operator, and a comment goes before it. -/
inductive Cuts (c : Char) (rest : List Char) : Lexeme → Prop where
  | comment (hslash : c = '/') (hnext : rest.head? = some '/') :
      Cuts c rest ⟨.comment, c :: rest, []⟩
  | ident (hstart : isIdentStart c = true) :
      Cuts c rest ⟨.ident, c :: rest.takeWhile isIdentPart, rest.dropWhile isIdentPart⟩
  | number (hstart : isIdentStart c = false) (hdigit : isDigit c = true) :
      Cuts c rest ⟨.number, c :: rest.takeWhile isIdentPart, rest.dropWhile isIdentPart⟩
  | string {chars after : List Char} (hquote : c = '"')
      (hclose : closeQuote c [c] rest = some (chars, after)) :
      Cuts c rest ⟨.string, chars, after⟩
  | char {chars after : List Char} (hquote : c = '\'')
      (hclose : closeQuote c [c] rest = some (chars, after)) (hlength : ¬chars.length < 3) :
      Cuts c rest ⟨.char, chars, after⟩
  | expr {chars after : List Char} (hdollar : c = '$') (hopen : rest.head? = some '(')
      (hclose : closeParen 0 ['(', '$'] (rest.drop 1) = some (chars, after)) :
      Cuts c rest ⟨.expr, chars, after⟩
  | op {op : String} (hslash : ¬(c = '/' ∧ rest.head? = some '/'))
      (hfound : operatorAt? (c :: rest) = some op) :
      Cuts c rest ⟨.op, op.toList, (c :: rest).drop op.length⟩

theorem cuts_of_lexeme {c : Char} {rest : List Char} {l : Lexeme} (h : lexeme c rest = .ok l) :
    Cuts c rest l := by
  unfold lexeme at h
  repeat' split at h
  all_goals first
    | (obtain rfl := Except.ok.inj h)
    | simp at h
  · simp_all [Cuts.comment]
  · exact .ident ‹_›
  · exact .number (by simpa using ‹¬isIdentStart c = true›) ‹_›
  · exact .string (by simpa using ‹(c == '"') = true›) ‹_›
  · exact .char (by simpa using ‹(c == '\'') = true›) ‹_› ‹_›
  · simp_all [Cuts.expr]
  · exact .op (by simp_all) ‹_›

/-- No operator starts like a lexeme of another kind. -/
private theorem start_of_mem_operators {op : String} (hop : op ∈ operators) {c : Char}
    (hc : op.toList.head? = some c) :
    isIdentStart c = false ∧ isDigit c = false ∧ c ≠ '"' ∧ c ≠ '\'' ∧ c ≠ '$' := by
  have hall : (operators.all fun op => op.toList.head?.all fun c =>
      !isIdentStart c && !isDigit c && c != '"' && c != '\'' && c != '$') = true := by
    decide +kernel
  have hstart := List.all_eq_true.mp hall op hop
  simpa [hc, and_assoc] using hstart

theorem lexeme_of_cuts {c : Char} {rest : List Char} {l : Lexeme} (h : Cuts c rest l) :
    lexeme c rest = .ok l := by
  cases h with
  | comment hslash hnext => simp [lexeme, hslash, hnext]
  | ident hstart =>
      have hne : c ≠ '/' := by
        rintro rfl
        exact absurd hstart (by decide)
      simp [lexeme, hne, hstart]
  | number hstart hdigit =>
      have hne : c ≠ '/' := by
        rintro rfl
        exact absurd hdigit (by decide)
      simp [lexeme, hne, hstart, hdigit]
  | string hquote hclose =>
      subst hquote
      have hstart : isIdentStart '"' = false := by decide
      have hdigit : isDigit '"' = false := by decide
      simp [lexeme, hstart, hdigit, hclose]
  | char hquote hclose hlength =>
      subst hquote
      have hstart : isIdentStart '\'' = false := by decide
      have hdigit : isDigit '\'' = false := by decide
      simp [lexeme, hstart, hdigit, hclose, hlength]
  | expr hdollar hopen hclose =>
      subst hdollar
      have hstart : isIdentStart '$' = false := by decide
      have hdigit : isDigit '$' = false := by decide
      rw [List.drop_one] at hclose
      simp [lexeme, hstart, hdigit, hopen, hclose]
  | op hslash hfound =>
      rename_i op
      obtain ⟨hmem, hfront⟩ := of_operatorAt?_eq_some hfound
      have hhead : op.toList.head? = some c := by
        have hpos := length_pos_of_mem_operators hmem
        rw [← String.length_toList] at hpos
        obtain ⟨first, tail, hop⟩ := List.exists_cons_of_length_pos hpos
        rw [hop] at hfront ⊢
        rw [(List.cons_prefix_cons.mp hfront).1]
        rfl
      obtain ⟨hstart, hdigit, hstring, hchar, hdollar⟩ := start_of_mem_operators hmem hhead
      simp_all [lexeme]

/-! ## Lexemes before white space -/

/-- A lexeme and what follows it are the line again. -/
theorem lexeme_append {c : Char} {rest : List Char} {l : Lexeme} (h : lexeme c rest = .ok l) :
    l.chars ++ l.rest = c :: rest := by
  cases cuts_of_lexeme h with
  | comment => simp
  | ident => simp
  | number => simp
  | string _ hclose => exact closeQuote_append hclose
  | char _ hclose => exact closeQuote_append hclose
  | expr hdollar hopen hclose =>
      obtain ⟨inner, rfl⟩ := List.head?_eq_some_iff.mp hopen
      simpa [hdollar] using closeParen_append hclose
  | op _ hfound =>
      obtain ⟨-, after, hafter⟩ := of_operatorAt?_eq_some hfound
      simp [← hafter, ← String.length_toList]

/-- A lexeme starts with the character that it was asked for. -/
theorem chars_of_lexeme {c : Char} {rest : List Char} {l : Lexeme} (h : lexeme c rest = .ok l) :
    ∃ tail, l.chars = c :: tail ∧ tail <+: rest := by
  have happend := lexeme_append h
  have hlt := length_rest_lt_of_lexeme h
  cases hchars : l.chars with
  | nil => simp [← happend, hchars] at hlt
  | cons first tail =>
      rw [hchars] at happend
      obtain ⟨rfl, hrest⟩ := List.cons.inj happend
      exact ⟨tail, rfl, l.rest, hrest⟩

/-- The part of a name or a number after its first character ends at white space. -/
private theorem takeWhile_before_blank (rest : List Char) {more : List Char}
    (hmore : StartsBlank more) :
    (rest.takeWhile isIdentPart ++ more).takeWhile isIdentPart = rest.takeWhile isIdentPart ∧
      (rest.takeWhile isIdentPart ++ more).dropWhile isIdentPart = more := by
  have hinside : ∀ c ∈ rest.takeWhile isIdentPart, isIdentPart c = true := by
    intro c hc
    have hall := List.all_takeWhile (p := isIdentPart) (l := rest)
    exact List.all_eq_true.mp hall c hc
  rw [List.takeWhile_append_of_pos hinside, List.dropWhile_append_of_pos hinside]
  cases more with
  | nil => simp
  | cons c more =>
      have hc : isIdentPart c = false := isIdentPart_of_isSpace (hmore c (by simp))
      simp [hc]

/-- A lexeme is cut off again before white space and at the end of the line.  A comment is not,
since it takes the white space too. -/
theorem lexeme_before_blank {c : Char} {rest tail more : List Char} {l : Lexeme}
    (h : lexeme c rest = .ok l) (htail : l.chars = c :: tail) (hkind : l.kind ≠ .comment)
    (hmore : StartsBlank more) : lexeme c (tail ++ more) = .ok ⟨l.kind, c :: tail, more⟩ := by
  obtain ⟨tail, hchars, hfront⟩ := chars_of_lexeme h
  obtain rfl : tail = _ := (List.cons.inj (hchars.symm.trans htail)).2
  refine lexeme_of_cuts ?_
  cases cuts_of_lexeme h with
  | comment => exact absurd rfl hkind
  | ident hstart =>
      obtain rfl := (List.cons.inj hchars).2
      obtain ⟨htake, hdrop⟩ := takeWhile_before_blank rest hmore
      have hcut : Cuts c (rest.takeWhile isIdentPart ++ more) _ := .ident hstart
      rwa [htake, hdrop] at hcut
  | number hstart hdigit =>
      obtain rfl := (List.cons.inj hchars).2
      obtain ⟨htake, hdrop⟩ := takeWhile_before_blank rest hmore
      have hcut : Cuts c (rest.takeWhile isIdentPart ++ more) _ := .number hstart hdigit
      rwa [htake, hdrop] at hcut
  | string hquote hclose =>
      obtain ⟨body, rfl, hstable⟩ := closeQuote_stable (by simp [hquote]) hclose
      obtain rfl : body = tail := (List.cons.inj hchars).2
      exact .string hquote (hstable more)
  | char hquote hclose hlength =>
      obtain ⟨body, rfl, hstable⟩ := closeQuote_stable (by simp [hquote]) hclose
      obtain rfl : body = tail := (List.cons.inj hchars).2
      exact .char hquote (hstable more) hlength
  | expr hdollar hopen hclose =>
      obtain ⟨body, rfl, hstable⟩ := closeParen_stable hclose
      obtain rfl : '(' :: body = tail := (List.cons.inj hchars).2
      subst hdollar
      exact .expr rfl rfl (hstable more)
  | op hslash hfound =>
      rename_i op
      -- a slash after the operator would have been there before
      have hhead : (tail ++ more).head? = some '/' → rest.head? = some '/' :=
        head?_before_blank hfront hmore (by decide)
      have hop : op.toList = c :: tail := hchars
      have hlength : op.length = (c :: tail).length := by rw [← hop, String.length_toList]
      have hstable := operatorAt?_before_blank hfound hmore
      rw [hop, List.cons_append] at hstable
      have hcut : Cuts c (tail ++ more) _ :=
        .op (fun hboth => hslash ⟨hboth.1, hhead hboth.2⟩) hstable
      simpa [hop, hlength] using hcut

/-! ## Steps over a line -/

theorem lexOnto_of_blank (done : List Token) (pos : Nat) {chars : List Char}
    (hblank : chars.dropWhile isSpace = []) : lexOnto done pos chars = ⟨done.reverse, none⟩ := by
  rw [lexOnto]
  split
  · rfl
  · rename_i hrest
    simp [hblank] at hrest

theorem lexOnto_of_error (done : List Token) (pos : Nat) {chars rest : List Char} {c : Char}
    {problem : Problem} (hrest : chars.dropWhile isSpace = c :: rest)
    (hlexeme : lexeme c rest = .error problem) :
    lexOnto done pos chars = ⟨done.reverse, some problem⟩ := by
  rw [lexOnto]
  split
  · rename_i hblank
    simp [hblank] at hrest
  · rename_i hsame
    obtain ⟨rfl, rfl⟩ := List.cons.inj (hrest.symm.trans hsame)
    split <;> simp_all

theorem lexOnto_of_ok (done : List Token) (pos : Nat) {chars rest : List Char} {c : Char}
    {l : Lexeme} (hrest : chars.dropWhile isSpace = c :: rest) (hlexeme : lexeme c rest = .ok l) :
    lexOnto done pos chars =
      lexOnto (⟨l.kind, l.text, pos + (chars.takeWhile isSpace).length + 1⟩ :: done)
        (pos + (chars.takeWhile isSpace).length + l.chars.length) l.rest := by
  rw [lexOnto]
  split
  · rename_i hblank
    simp [hblank] at hrest
  · rename_i hsame
    obtain ⟨rfl, rfl⟩ := List.cons.inj (hrest.symm.trans hsame)
    split
    · simp_all
    · rename_i hother
      obtain rfl := Except.ok.inj (hlexeme.symm.trans hother)
      rfl

/-- White space only moves what follows it. -/
theorem lexOnto_space (done : List Token) (pos : Nat) {c : Char} (chars : List Char)
    (hc : isSpace c = true) : lexOnto done pos (c :: chars) = lexOnto done (pos + 1) chars := by
  have hdrop : (c :: chars).dropWhile isSpace = chars.dropWhile isSpace := by simp [hc]
  have htake : (c :: chars).takeWhile isSpace = c :: chars.takeWhile isSpace := by simp [hc]
  cases hrest : chars.dropWhile isSpace with
  | nil => rw [lexOnto_of_blank _ _ (hdrop.trans hrest), lexOnto_of_blank _ _ hrest]
  | cons first rest =>
      cases hlexeme : lexeme first rest with
      | error problem =>
          rw [lexOnto_of_error _ _ (hdrop.trans hrest) hlexeme, lexOnto_of_error _ _ hrest hlexeme]
      | ok l =>
          rw [lexOnto_of_ok _ _ (hdrop.trans hrest) hlexeme, lexOnto_of_ok _ _ hrest hlexeme, htake,
            List.length_cons]
          congr 1 <;> grind

theorem lexOnto_lexeme (done : List Token) (pos : Nat) {c : Char} {rest tail more : List Char}
    {l : Lexeme} (h : lexeme c rest = .ok l) (htail : l.chars = c :: tail)
    (hc : isSpace c = false) (hkind : l.kind ≠ .comment) (hmore : StartsBlank more) :
    lexOnto done pos (c :: tail ++ more) =
      lexOnto (⟨l.kind, l.text, pos + 1⟩ :: done) (pos + (c :: tail).length) more := by
  have hdrop : (c :: (tail ++ more)).dropWhile isSpace = c :: (tail ++ more) := by simp [hc]
  have htake : (c :: (tail ++ more)).takeWhile isSpace = [] := by simp [hc]
  rw [List.cons_append, lexOnto_of_ok done pos hdrop (lexeme_before_blank h htail hkind hmore),
    htake]
  simp [Lexeme.text, htail]

/-- A comment becomes a token with all that is left. -/
theorem lexOnto_comment (done : List Token) (pos : Nat) (text : List Char) :
    lexOnto done pos ('/' :: '/' :: text) =
      ⟨done.reverse ++ [⟨.comment, String.ofList text, pos + 1⟩], none⟩ := by
  have hslash : isSpace '/' = false := by decide
  have hdrop : ('/' :: '/' :: text).dropWhile isSpace = '/' :: '/' :: text := by simp [hslash]
  have htake : ('/' :: '/' :: text).takeWhile isSpace = [] := by simp [hslash]
  rw [lexOnto_of_ok done pos hdrop (by simp [lexeme]; rfl), htake, lexOnto_of_blank _ _ (by simp)]
  simp [Lexeme.text]

/-! ## Tokens and their lexemes -/

/-- A comment takes the rest of the line. -/
theorem lexeme_comment {c : Char} {rest : List Char} {l : Lexeme} (h : lexeme c rest = .ok l)
    (hkind : l.kind = .comment) :
    ∃ text, c = '/' ∧ rest = '/' :: text ∧ l = ⟨.comment, '/' :: '/' :: text, []⟩ := by
  cases cuts_of_lexeme h with
  | comment hslash hnext =>
      obtain ⟨text, rfl⟩ := List.head?_eq_some_iff.mp hnext
      exact ⟨text, hslash, rfl, by rw [hslash]⟩
  | _ => simp at hkind

theorem print_of_lexeme {c : Char} {rest : List Char} {l : Lexeme} (h : lexeme c rest = .ok l)
    (col : Nat) : (Token.mk l.kind l.text col).print.toList = l.chars := by
  by_cases hkind : l.kind = .comment
  · obtain ⟨text, -, -, rfl⟩ := lexeme_comment h hkind
    simp [Token.print, Lexeme.text]
  · simp [Token.print, Lexeme.text]

theorem text_of_print {tok : Token} {chars rest : List Char} (hchars : tok.print.toList = chars) :
    (Lexeme.mk tok.kind chars rest).text = tok.text := by
  subst hchars
  by_cases hkind : tok.kind = .comment
  · simp [Lexeme.text, Token.print, hkind]
  · simp [Lexeme.text, Token.print]

theorem isLexeme_of_cut {tok : Token} {c : Char} {tail : List Char}
    (hprint : tok.print.toList = c :: tail) (hc : isSpace c = false)
    (hlexeme : lexeme c tail = .ok ⟨tok.kind, c :: tail, []⟩) : tok.IsLexeme := by
  have hdrop : (c :: tail).dropWhile isSpace = c :: tail := by simp [hc]
  have htake : (c :: tail).takeWhile isSpace = [] := by simp [hc]
  rw [Token.IsLexeme, lex, hprint, lexOnto_of_ok _ _ hdrop hlexeme, htake,
    lexOnto_of_blank _ _ (by simp), text_of_print hprint]
  rfl

/-- What is lexed later does not take tokens away. -/
theorem length_le_length_lexOnto (done : List Token) (pos : Nat) (chars : List Char) :
    done.length ≤ (lexOnto done pos chars).tokens.length := by
  fun_induction lexOnto done pos chars with
  | case1 => simp
  | case2 => simp
  | case3 done pos chars c rest _ start l _ ih =>
      simp only [List.length_cons] at ih
      omega

/-- If lexing what is left finds nothing at all, only white space is left. -/
theorem blank_of_length_eq {done tokens : List Token} {pos : Nat} {chars : List Char}
    (h : lexOnto done pos chars = ⟨tokens, none⟩) (hlength : tokens.length = done.length) :
    chars.dropWhile isSpace = [] := by
  cases hrest : chars.dropWhile isSpace with
  | nil => rfl
  | cons c rest =>
      exfalso
      cases hlexeme : lexeme c rest with
      | error problem => simp [lexOnto_of_error _ _ hrest hlexeme] at h
      | ok l =>
          have hle : (lexOnto done pos chars).tokens.length = done.length := by rw [h, hlength]
          rw [lexOnto_of_ok _ _ hrest hlexeme] at hle
          refine absurd (Nat.le_of_eq hle) (Nat.not_le.mpr ?_)
          exact length_le_length_lexOnto (_ :: done) _ l.rest

/-- A line with a single token is the lexeme of this token, with white space around it. -/
theorem lexeme_of_single {line : String} {tok : Token} (h : lex line = ⟨[tok], none⟩) :
    ∃ c tail l, line.toList = line.toList.takeWhile isSpace ++ c :: tail ∧ isSpace c = false ∧
      lexeme c tail = .ok l ∧ l.rest.dropWhile isSpace = [] ∧
      tok = ⟨l.kind, l.text, (line.toList.takeWhile isSpace).length + 1⟩ := by
  have happend := List.takeWhile_append_dropWhile (p := isSpace) (l := line.toList)
  rw [lex] at h
  cases hrest : line.toList.dropWhile isSpace with
  | nil => simp [lexOnto_of_blank _ _ hrest] at h
  | cons c tail =>
      have hc : isSpace c = false := by
        have hhead := List.head?_dropWhile_not isSpace line.toList
        simpa [hrest] using hhead
      rw [hrest] at happend
      cases hl : lexeme c tail with
      | error problem => simp [lexOnto_of_error _ _ hrest hl] at h
      | ok l =>
          rw [lexOnto_of_ok _ _ hrest hl, Nat.zero_add] at h
          -- a second lexeme would be a second token
          have hblank := blank_of_length_eq h rfl
          rw [lexOnto_of_blank _ _ hblank] at h
          have htok := (List.cons.inj (congrArg Lexed.tokens h)).1
          exact ⟨c, tail, l, happend.symm, hc, hl, hblank, htok.symm⟩

/-- The characters of a token that is a lexeme are cut off as a whole. -/
theorem cut_of_isLexeme {tok : Token} (h : tok.IsLexeme) :
    ∃ c tail, tok.print.toList = c :: tail ∧ isSpace c = false ∧
      lexeme c tail = .ok ⟨tok.kind, c :: tail, []⟩ := by
  obtain ⟨c, tail, l, hline, hc, hlexeme, -, htok⟩ := lexeme_of_single h
  obtain ⟨hkind, htext, hcol⟩ := Token.mk.inj htok
  -- the column says that no white space stands before the lexeme
  have hprint : tok.print.toList = c :: tail := by
    have hnone : tok.print.toList.takeWhile isSpace = [] :=
      List.eq_nil_of_length_eq_zero (by omega)
    rw [hline, hnone, List.nil_append]
  -- and its text that none stands after it
  have hchars : l.chars = c :: tail := by
    rw [← print_of_lexeme hlexeme 0, ← hprint]
    simp only [Token.print, hkind, htext]
  have hafter : l.rest = [] := by
    have happend := lexeme_append hlexeme
    simpa [hchars] using happend
  obtain ⟨kind, chars, after⟩ := l
  simp only at hkind hchars hafter
  subst hkind hchars hafter
  exact ⟨c, tail, hprint, hc, hlexeme⟩

/-- Whether the characters of a token are cut off as a whole. -/
def Token.isCut (tok : Token) : Bool :=
  match tok.print.toList with
  | [] => false
  | c :: tail =>
      match lexeme c tail with
      | .ok l => !isSpace c && l.kind == tok.kind && l.chars == c :: tail && l.rest.isEmpty
      | .error _ => false

theorem Token.isLexeme_iff_isCut (tok : Token) : tok.IsLexeme ↔ tok.isCut = true := by
  constructor
  · intro h
    obtain ⟨c, tail, hprint, hc, hlexeme⟩ := cut_of_isLexeme h
    simp [isCut, hprint, hlexeme, hc]
  · intro h
    unfold isCut at h
    split at h
    · simp at h
    rename_i c tail hprint
    split at h
    · rename_i l hlexeme
      simp only [Bool.and_eq_true, Bool.not_eq_true', beq_iff_eq, List.isEmpty_iff] at h
      obtain ⟨⟨⟨hc, hkind⟩, hchars⟩, hrest⟩ := h
      obtain ⟨kind, chars, rest⟩ := l
      simp only at hkind hchars hrest
      subst hkind hchars hrest
      exact isLexeme_of_cut hprint hc hlexeme
    · simp at h

instance (tok : Token) : Decidable tok.IsLexeme :=
  decidable_of_iff _ tok.isLexeme_iff_isCut.symm

theorem isLexeme_mark {text : String} (htext : text ∈ operators) :
    (Token.mark text).IsLexeme := by
  revert text
  decide +kernel

/-- No name, keyword or register is an operator: the text of a lexeme says which kind it is. -/
theorem not_mem_operators_of_isLexeme {text : String} (h : (Token.word text).IsLexeme) :
    text ∉ operators := by
  intro htext
  have hmark : lex text = _ := isLexeme_mark htext
  have hword : lex text = _ := h
  rw [hmark] at hword
  simp at hword

/-- The token of every lexeme of a line is a lexeme by itself. -/
theorem isLexeme_of_lexeme {c : Char} {rest : List Char} {l : Lexeme} (h : lexeme c rest = .ok l)
    (hc : isSpace c = false) (col : Nat) : (Token.mk l.kind l.text col).IsLexeme := by
  obtain ⟨tail, htail, -⟩ := chars_of_lexeme h
  have hprint := (print_of_lexeme h col).trans htail
  refine isLexeme_of_cut hprint hc ?_
  by_cases hkind : l.kind = .comment
  · obtain ⟨text, rfl, rfl, rfl⟩ := lexeme_comment h hkind
    obtain rfl : '/' :: text = tail := (List.cons.inj htail).2
    exact h
  · simpa using lexeme_before_blank h htail hkind startsBlank_nil

/-- Every token of a line is a lexeme by itself. -/
theorem isLexeme_of_mem_lex {line : String} {tok : Token} (htok : tok ∈ (lex line).tokens) :
    tok.IsLexeme := by
  suffices hsteps : ∀ (done : List Token) (pos : Nat) (chars : List Char),
      (∀ tok ∈ done, tok.IsLexeme) → ∀ tok ∈ (lexOnto done pos chars).tokens, tok.IsLexeme from
    hsteps [] 0 line.toList (by simp) tok htok
  intro done pos chars hdone
  fun_induction lexOnto done pos chars with
  | case1 => simpa using hdone
  | case2 => simpa using hdone
  | case3 done pos chars c rest hrest start l hlexeme ih =>
      apply ih
      intro tok hmem
      rcases List.mem_cons.mp hmem with rfl | hmem
      · have hc : isSpace c = false := by
          have hhead := List.head?_dropWhile_not isSpace chars
          simpa [hrest] using hhead
        exact isLexeme_of_lexeme hlexeme hc _
      · exact hdone tok hmem

/-! ## Lexing what was printed -/

/-- The tokens with the columns that they have on a line with single blanks between them, where
`pos` characters stand before the first one. -/
def placeFrom (pos : Nat) : List Token → List Token
  | [] => []
  | tok :: tokens => { tok with col := pos + 1 } :: placeFrom (pos + tok.print.length + 1) tokens

/-- How many characters stand before what follows the tokens and a blank. -/
def endFrom (pos : Nat) : List Token → Nat
  | [] => pos
  | tok :: tokens => endFrom (pos + tok.print.length + 1) tokens

@[simp] theorem placeFrom_nil (pos : Nat) : placeFrom pos [] = [] := rfl

@[simp] theorem placeFrom_cons (pos : Nat) (tok : Token) (tokens : List Token) :
    placeFrom pos (tok :: tokens) =
      { tok with col := pos + 1 } :: placeFrom (pos + tok.print.length + 1) tokens := rfl

@[simp] theorem placeFrom_append (pos : Nat) (first second : List Token) :
    placeFrom pos (first ++ second) =
      placeFrom pos first ++ placeFrom (endFrom pos first) second := by
  induction first generalizing pos with
  | nil => rfl
  | cons tok first ih => simp [placeFrom, endFrom, ih]

/-- A place changes only the column of a token. -/
theorem exists_of_mem_placeFrom {pos : Nat} {tokens : List Token} {tok : Token}
    (htok : tok ∈ placeFrom pos tokens) :
    ∃ other ∈ tokens, tok = { other with col := tok.col } := by
  induction tokens generalizing pos with
  | nil => simp at htok
  | cons first tokens ih =>
      rcases List.mem_cons.mp htok with rfl | hmem
      · exact ⟨first, by simp, rfl⟩
      · obtain ⟨other, hother, heq⟩ := ih hmem
        exact ⟨other, List.mem_cons_of_mem _ hother, heq⟩

@[simp] theorem map_print_placeFrom (pos : Nat) (tokens : List Token) :
    (placeFrom pos tokens).map Token.print = tokens.map Token.print := by
  induction tokens generalizing pos with
  | nil => rfl
  | cons tok tokens ih => simp [ih, Token.print]

/-- A lexeme before white space becomes a token, and the line goes on after it. -/
theorem lexOnto_print {tok : Token} (htok : tok.IsLexeme) (hkind : tok.kind ≠ .comment)
    (done : List Token) (pos : Nat) {more : List Char} (hmore : StartsBlank more) :
    lexOnto done pos (tok.print.toList ++ more) =
      lexOnto ({ tok with col := pos + 1 } :: done) (pos + tok.print.length) more := by
  obtain ⟨c, tail, hprint, hc, hlexeme⟩ := cut_of_isLexeme htok
  rw [hprint, lexOnto_lexeme done pos hlexeme rfl hc hkind hmore, text_of_print hprint, ← hprint,
    String.length_toList]

/-- Lexing lexemes with single blanks between them gives them back, each in its place.  A
comment may stand only at the end. -/
theorem lex_joinTokens {tokens : List Token} (hlexemes : ∀ tok ∈ tokens, tok.IsLexeme)
    (hcomments : ∀ tok ∈ tokens.dropLast, tok.kind ≠ .comment) :
    lex (joinTokens tokens) = ⟨placeFrom 0 tokens, none⟩ := by
  suffices hsteps : ∀ (done : List Token) (pos : Nat),
      lexOnto done pos (joinTokens tokens).toList =
        ⟨done.reverse ++ placeFrom pos tokens, none⟩ from
    hsteps [] 0
  -- the line begins after any tokens and at any place, so that the rest of it is such a line too
  induction tokens with
  | nil =>
      intro done pos
      have hempty : (joinTokens []).toList = [] := by simp [joinTokens]
      rw [hempty, lexOnto_of_blank _ _ (by simp)]
      simp
  | cons tok tokens ih =>
      intro done pos
      have htok := hlexemes tok (by simp)
      cases tokens with
      | nil =>
          have honly : joinTokens [tok] = tok.print := by simp [joinTokens]
          rw [honly]
          -- the last token may be a comment, and then it takes all that is left
          by_cases hkind : tok.kind = .comment
          · have hprint : tok.print.toList = '/' :: '/' :: tok.text.toList := by
              simp [Token.print, hkind]
            rw [hprint, lexOnto_comment]
            simp [← hkind]
          · have hstep := lexOnto_print htok hkind done pos startsBlank_nil
            rw [List.append_nil] at hstep
            rw [hstep, lexOnto_of_blank _ _ (by simp)]
            simp
      | cons next tokens =>
          have hkind : tok.kind ≠ .comment := hcomments tok (by simp)
          have hrest := ih (fun other hother => hlexemes other (List.mem_cons_of_mem _ hother))
            (fun other hother => hcomments other (by simp [hother]))
          have hjoin : (joinTokens (tok :: next :: tokens)).toList =
              tok.print.toList ++ ' ' :: (joinTokens (next :: tokens)).toList := by
            simp [joinTokens]
          have hspace : isSpace ' ' = true := by decide
          rw [hjoin, lexOnto_print htok hkind done pos (startsBlank_cons hspace),
            lexOnto_space _ _ _ hspace, hrest]
          simp

end Shorthand
